import FormulaOcr.Proofs.Agreement
import FormulaOcr.Provider

/-! Two actions in two worlds. They are coupled by a relation between worlds if from related worlds
both come to results that are alike, or both end early with faults that are alike, and leave related
worlds. What may differ are the words of messages and the credentials for the providers. -/

namespace FormulaOcr

/-- What two runs may differ in: the words of a message, and the credential for a provider in calls
to its own addresses. An empty text is like no other one. -/
structure Likeness where
  words : String → String → Prop
  credential : Provider → String → String → Prop
  address : Provider → String → Prop
  words_refl : ∀ s, words s s
  credential_refl : ∀ p s, credential p s s
  words_empty_iff : ∀ {s s'}, words s s' → (s = "" ↔ s' = "")
  empty_iff : ∀ {p s s'}, credential p s s' → (s = "" ↔ s' = "")

/-- Two runs that may differ in nothing. -/
def Likeness.same : Likeness where
  words := Eq
  credential _ := Eq
  address _ _ := True
  words_refl _ := rfl
  credential_refl _ _ := rfl
  words_empty_iff h := by rw [h]
  empty_iff h := by rw [h]

/-- Messages may not differ in their words. -/
def Likeness.Literal (L : Likeness) : Prop :=
  ∀ s s', L.words s s' → s = s'

theorem Likeness.literal_same : Likeness.same.Literal :=
  fun _ _ h => h

variable {α β γ δ : Type} {L : Likeness} {R : World → World → Prop}

/-- The same complaint, perhaps in other words, or the same crash. -/
inductive Fault.Like (L : Likeness) : Fault → Fault → Prop
  | failure (c : Complaint) {m m' : String} (h : L.words m m') :
      Like L (.failure ⟨c, m⟩) (.failure ⟨c, m'⟩)
  | crash (c : Crash) : Like L (.crash c) (.crash c)

theorem Fault.Like.refl : ∀ e : Fault, e.Like L e
  | .failure f => .failure f.complaint (L.words_refl f.message)
  | .crash c => .crash c

theorem Fault.Like.eq {e e' : Fault} (h : e.Like L e') (hL : L.Literal) : e = e' := by
  cases h with
  | failure c h => rw [hL _ _ h]
  | crash c => rfl

/-- Related worlds of which each has a property of its own. -/
def Paired (R : World → World → Prop) (P P' : World → Prop) (w v : World) : Prop :=
  R w v ∧ P w ∧ P' v

/-- Two computations that cannot fail: from related worlds both come to matching results and leave
related worlds. -/
def Matches (R : World → World → Prop) (Q : α → β → Prop) (m : StateM World α)
    (m' : StateM World β) : Prop :=
  ∀ w v, R w v → Q (m.run w).1 (m'.run v).1 ∧ R (m.run w).2 (m'.run v).2

theorem Matches.pure {Q : α → β → Prop} {x : α} {y : β} (h : Q x y) :
    Matches R Q (pure x) (pure y) :=
  fun _ _ hR => ⟨h, hR⟩

theorem Matches.bind {Q : α → β → Prop} {Q' : γ → δ → Prop} {m : StateM World α}
    {m' : StateM World β} {f : α → StateM World γ} {g : β → StateM World δ}
    (hm : Matches R Q m m') (hf : ∀ x y, Q x y → Matches R Q' (f x) (g y)) :
    Matches R Q' (m >>= f) (m' >>= g) := by
  intro w v hR
  obtain ⟨hresult, hleft⟩ := hm w v hR
  exact hf _ _ hresult _ _ hleft

theorem Matches.mapM {Q : α → β → Prop} {f : γ → StateM World α} {g : γ → StateM World β}
    {xs : List γ} (h : ∀ x ∈ xs, Matches R Q (f x) (g x)) :
    Matches R (List.Forall₂ Q) (xs.mapM f) (xs.mapM g) := by
  induction xs with
  | nil => exact Matches.pure .nil
  | cons x xs ih =>
    rw [List.mapM_cons, List.mapM_cons]
    refine (h x (by simp)).bind fun y y' hy => ?_
    refine (ih fun z hz => h z (List.mem_cons_of_mem x hz)).bind fun ys ys' hys => ?_
    exact Matches.pure (.cons hy hys)

namespace Action

/-- How two actions end: with results that are alike, or with faults that are. -/
inductive Ends (L : Likeness) (Q : α → β → Prop) : Except Fault α → Except Fault β → Prop
  | ok {x : α} {y : β} (h : Q x y) : Ends L Q (.ok x) (.ok y)
  | error {e e' : Fault} (h : e.Like L e') : Ends L Q (.error e) (.error e')

/-- From related worlds, two actions end alike and leave related worlds. -/
def Couples (L : Likeness) (R : World → World → Prop) (Q : α → β → Prop) (a : Action α)
    (b : Action β) : Prop :=
  ∀ w v, R w v → Ends L Q (exec a w).1 (exec b v).1 ∧ R (exec a w).2 (exec b v).2

/-- Results of which each may be a failure, in words of its own. -/
inductive Tried (L : Likeness) (Q : α → β → Prop) : Except Failure α → Except Failure β → Prop
  | ok {x : α} {y : β} (h : Q x y) : Tried L Q (.ok x) (.ok y)
  | error (c : Complaint) {m m' : String} (h : L.words m m') :
      Tried L Q (.error ⟨c, m⟩) (.error ⟨c, m'⟩)

variable {Q : α → β → Prop} {Q' : γ → δ → Prop} {a : Action α} {b : Action β}

theorem Couples.run (h : Couples L R Q a b) : Matches R (Ends L Q) a.run b.run :=
  h

theorem Couples.pure {x : α} {y : β} (h : Q x y) : Couples L R Q (pure x) (pure y) :=
  fun _ _ hR => ⟨.ok h, hR⟩

theorem Couples.throw {e e' : Fault} (h : e.Like L e') :
    Couples L R Q (throw e : Action α) (throw e') :=
  fun _ _ hR => ⟨.error h, hR⟩

/-- From related worlds, two coupled actions both come to results or both end early. -/
theorem Couples.ends (h : Couples L R Q a b) {w v : World} (hR : R w v) :
    (∃ x y w' v', exec a w = (.ok x, w') ∧ exec b v = (.ok y, v') ∧ Q x y ∧ R w' v') ∨
      ∃ e e' w' v', exec a w = (.error e, w') ∧ exec b v = (.error e', v') ∧ e.Like L e' ∧
        R w' v' := by
  have hends := h w v hR
  generalize exec a w = left at hends ⊢
  generalize exec b v = right at hends ⊢
  obtain ⟨result, w'⟩ := left
  obtain ⟨result', v'⟩ := right
  obtain ⟨hends, hleft⟩ := hends
  cases hends with
  | ok hxy => exact .inl ⟨_, _, w', v', rfl, rfl, hxy, hleft⟩
  | error he => exact .inr ⟨_, _, w', v', rfl, rfl, he, hleft⟩

theorem Couples.mono {Q₁ : α → β → Prop} (h : Couples L R Q a b) (hQ : ∀ x y, Q x y → Q₁ x y) :
    Couples L R Q₁ a b := by
  intro w v hR
  rcases h.ends hR with ⟨x, y, w', v', hw, hv, hxy, hleft⟩ | ⟨e, e', w', v', hw, hv, he, hleft⟩
  · rw [hw, hv]
    exact ⟨.ok (hQ x y hxy), hleft⟩
  · rw [hw, hv]
    exact ⟨.error he, hleft⟩

theorem Couples.bind {f : α → Action γ} {g : β → Action δ} (ha : Couples L R Q a b)
    (hf : ∀ x y, Q x y → Couples L R Q' (f x) (g y)) : Couples L R Q' (a >>= f) (b >>= g) := by
  intro w v hR
  rw [exec_bind, exec_bind]
  rcases ha.ends hR with ⟨x, y, w', v', hw, hv, hxy, hleft⟩ | ⟨e, e', w', v', hw, hv, he, hleft⟩
  · rw [hw, hv]
    exact hf x y hxy w' v' hleft
  · rw [hw, hv]
    exact ⟨.error he, hleft⟩

/-- What agrees on a relation is coupled with itself. -/
theorem Agrees.couples {a : Action α} (h : Agrees R a) : Couples L R Eq a a := by
  intro w v hR
  obtain ⟨hresult, hleft⟩ := h w v hR
  refine ⟨?_, hleft⟩
  rw [← hresult]
  cases (exec a w).1 with
  | ok x => exact .ok rfl
  | error e => exact .error (Fault.Like.refl e)

/-- If runs may differ in nothing, what is coupled with itself agrees. -/
theorem Couples.agrees {a : Action α} (h : Couples .same R Eq a a) : Agrees R a := by
  intro w v hR
  rcases h.ends hR with ⟨x, y, w', v', hw, hv, hxy, hleft⟩ | ⟨e, e', w', v', hw, hv, he, hleft⟩
  · rw [hw, hv, hxy]
    exact ⟨rfl, hleft⟩
  · rw [hw, hv, he.eq Likeness.literal_same]
    exact ⟨rfl, hleft⟩

theorem Couples.agrees_of {Q : α → α → Prop} {a : Action α} (h : Couples .same R Q a a)
    (hQ : ∀ x y, Q x y → x = y) : Agrees R a :=
  (h.mono hQ).agrees

/-- What agrees goes on alike behind it. -/
theorem Couples.after {a : Action α} {f : α → Action γ} {g : α → Action δ} (ha : Agrees R a)
    (hf : ∀ x, Couples L R Q' (f x) (g x)) : Couples L R Q' (a >>= f) (a >>= g) := by
  apply ha.couples.bind
  rintro x _ rfl
  exact hf x

theorem Couples.attempt (h : Couples L R Q a b) :
    Couples L R (Tried L Q) (attempt a) (attempt b) := by
  intro w v hR
  rw [exec_attempt, exec_attempt]
  rcases h.ends hR with ⟨x, y, w', v', hw, hv, hxy, hleft⟩ | ⟨e, e', w', v', hw, hv, he, hleft⟩
  · rw [hw, hv]
    exact ⟨.ok (.ok hxy), hleft⟩
  · rw [hw, hv]
    -- a failure is a result from here on, a crash is not
    cases he with
    | failure c hm => exact ⟨.ok (.error c hm), hleft⟩
    | crash c => exact ⟨.error (.crash c), hleft⟩

theorem Couples.ite {c d : Prop} [Decidable c] [Decidable d] {a' : Action α} {b' : Action β}
    (hcd : c ↔ d) (h : c → Couples L R Q a b) (h' : ¬ c → Couples L R Q a' b') :
    Couples L R Q (if c then a else a') (if d then b else b') := by
  by_cases hc : c
  · rw [if_pos hc, if_pos (hcd.1 hc)]
    exact h hc
  · rw [if_neg hc, if_neg fun hd => hc (hcd.2 hd)]
    exact h' hc

/-- A list of actions comes to a list of results that are alike one by one. -/
theorem Couples.mapM {f : γ → Action α} {g : γ → Action β} {xs : List γ}
    (h : ∀ x ∈ xs, Couples L R Q (f x) (g x)) :
    Couples L R (List.Forall₂ Q) (xs.mapM f) (xs.mapM g) := by
  induction xs with
  | nil => exact Couples.pure .nil
  | cons x xs ih =>
    rw [List.mapM_cons, List.mapM_cons]
    refine (h x (by simp)).bind fun y y' hy => ?_
    refine (ih fun z hz => h z (List.mem_cons_of_mem x hz)).bind fun ys ys' hys => ?_
    exact Couples.pure (.cons hy hys)

/-- Coupled actions that each keep a property are coupled on the worlds that have them. -/
theorem Couples.paired {P P' : World → Prop} (h : Couples L R Q a b) (ha : Agrees (Only P) a)
    (hb : Agrees (Only P') b) : Couples L (Paired R P P') Q a b := by
  rintro w v ⟨hR, hw, hv⟩
  obtain ⟨hends, hleft⟩ := h w v hR
  exact ⟨hends, hleft, agrees_only.1 ha w hw, agrees_only.1 hb v hv⟩

theorem Agrees.paired {P P' : World → Prop} {a : Action α} (h : Agrees R a)
    (ha : Agrees (Only P) a) (ha' : Agrees (Only P') a) : Agrees (Paired R P P') a := by
  rintro w v ⟨hR, hw, hv⟩
  obtain ⟨hresult, hleft⟩ := h w v hR
  exact ⟨hresult, hleft, agrees_only.1 ha w hw, agrees_only.1 ha' v hv⟩

/-- What actions look up in the world may differ. -/
theorem Couples.get {f g : World → Action α} {Q : α → α → Prop}
    (h : ∀ w v, R w v → Couples L R Q (f w) (g v)) :
    Couples L R Q (get >>= f) (get >>= g) := by
  intro w v hR
  rw [exec_bind, exec_bind, exec_get, exec_get]
  exact h w v hR w v hR

end Action

end FormulaOcr
