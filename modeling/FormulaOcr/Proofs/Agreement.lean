import FormulaOcr.Proofs.Action

/-! Actions in two worlds at once. An action agrees on a relation between worlds if in related
worlds it comes to the same and leaves related worlds. On the worlds that have a property, each
related to itself, this says that the action keeps the property. -/

namespace FormulaOcr

variable {α β : Type} {R : World → World → Prop}

/-- In related worlds, a computation gives the same and leaves related worlds. -/
def Alike (R : World → World → Prop) (m : StateM World α) : Prop :=
  ∀ w v, R w v → (m.run w).1 = (m.run v).1 ∧ R (m.run w).2 (m.run v).2

theorem Alike.pure (x : α) : Alike R (pure x) :=
  fun _ _ h => ⟨rfl, h⟩

theorem Alike.bind {m : StateM World α} {f : α → StateM World β} (hm : Alike R m)
    (hf : ∀ x, Alike R (f x)) : Alike R (m >>= f) := by
  intro w v h
  obtain ⟨hresult, hleft⟩ := hm w v h
  have := hf (m.run w).1 _ _ hleft
  rw [StateT.run_bind, StateT.run_bind]
  change ((f (m.run w).1).run (m.run w).2).1 = ((f (m.run v).1).run (m.run v).2).1 ∧
    R ((f (m.run w).1).run (m.run w).2).2 ((f (m.run v).1).run (m.run v).2).2
  rwa [← hresult]

namespace Action

/-- In related worlds, an action comes to the same and leaves related worlds. -/
def Agrees (R : World → World → Prop) (a : Action α) : Prop :=
  ∀ w v, R w v → (exec a w).1 = (exec a v).1 ∧ R (exec a w).2 (exec a v).2

theorem Agrees.run {a : Action α} (h : Agrees R a) : Alike R a.run :=
  h

theorem Agrees.pure (x : α) : Agrees R (pure x) :=
  fun _ _ h => ⟨rfl, h⟩

theorem Agrees.throw (f : Fault) : Agrees R (throw f : Action α) :=
  fun _ _ h => ⟨rfl, h⟩

theorem Agrees.ofCrash (r : Except Crash α) : Agrees R (ofCrash r) := by
  cases r with
  | ok x => exact Agrees.pure x
  | error c => exact Agrees.throw (.crash c)

/-- From related worlds, an action comes to one and the same result, or ends early with one and the
same fault. -/
theorem Agrees.ends {a : Action α} (ha : Agrees R a) {w v : World} (h : R w v) :
    (∃ x w' v', exec a w = (.ok x, w') ∧ exec a v = (.ok x, v') ∧ R w' v') ∨
      ∃ e w' v', exec a w = (.error e, w') ∧ exec a v = (.error e, v') ∧ R w' v' := by
  obtain ⟨hresult, hleft⟩ := ha w v h
  cases hw : (exec a w).1 with
  | ok x => exact .inl ⟨x, _, _, Prod.ext hw rfl, Prod.ext (hresult ▸ hw) rfl, hleft⟩
  | error e => exact .inr ⟨e, _, _, Prod.ext hw rfl, Prod.ext (hresult ▸ hw) rfl, hleft⟩

theorem Agrees.bind {a : Action α} {f : α → Action β} (ha : Agrees R a)
    (hf : ∀ x, Agrees R (f x)) : Agrees R (a >>= f) := by
  intro w v h
  rw [exec_bind, exec_bind]
  rcases ha.ends h with ⟨x, w', v', hw, hv, hleft⟩ | ⟨e, w', v', hw, hv, hleft⟩
  · rw [hw, hv]
    exact hf x w' v' hleft
  · rw [hw, hv]
    exact ⟨rfl, hleft⟩

theorem Agrees.discard {a : Action α} (ha : Agrees R a) : Agrees R (discard a) :=
  ha.bind fun _ => Agrees.pure PUnit.unit

theorem Agrees.attempt {a : Action α} (ha : Agrees R a) : Agrees R (attempt a) := by
  intro w v h
  rw [exec_attempt, exec_attempt]
  rcases ha.ends h with ⟨x, w', v', hw, hv, hleft⟩ | ⟨e, w', v', hw, hv, hleft⟩
  · rw [hw, hv]
    exact ⟨rfl, hleft⟩
  · rw [hw, hv]
    cases e <;> exact ⟨rfl, hleft⟩

theorem Agrees.ite {c : Prop} [Decidable c] {a b : Action α} (ha : c → Agrees R a)
    (hb : ¬ c → Agrees R b) : Agrees R (if c then a else b) := by
  split_ifs with h
  · exact ha h
  · exact hb h

theorem Agrees.mapM {f : α → Action β} (hf : ∀ x, Agrees R (f x)) (xs : List α) :
    Agrees R (xs.mapM f) := by
  induction xs with
  | nil => exact Agrees.pure []
  | cons x xs ih =>
    rw [List.mapM_cons]
    exact (hf x).bind fun y => ih.bind fun ys => Agrees.pure (y :: ys)

theorem Agrees.foldlM {f : β → α → Action β} (hf : ∀ y x, Agrees R (f y x)) (xs : List α) :
    ∀ y, Agrees R (xs.foldlM f y) := by
  induction xs with
  | nil => exact fun y => Agrees.pure y
  | cons x xs ih =>
    intro y
    rw [List.foldlM_cons]
    exact (hf y x).bind ih

/-- What an action looks up in the world makes no difference in related worlds. -/
theorem Agrees.get {f : World → Action α} (hsame : ∀ w v, R w v → f w = f v)
    (hf : ∀ w, Agrees R (f w)) : Agrees R (get >>= f) := by
  intro w v h
  rw [exec_bind, exec_bind, exec_get, exec_get]
  dsimp only
  rw [hsame w v h]
  exact hf v w v h

theorem Agrees.modify {f : World → World} (hf : ∀ w v, R w v → R (f w) (f v)) :
    Agrees R (modify f : Action PUnit) :=
  fun w v h => ⟨rfl, hf w v h⟩

/-- A computation that cannot fail, as an action. -/
theorem Agrees.lift {m : StateM World α} (hm : Alike R m) :
    Agrees R (liftM m : Action α) := by
  intro w v h
  obtain ⟨hresult, hleft⟩ := hm w v h
  refine ⟨?_, hleft⟩
  change Except.ok (m.run w).1 = Except.ok (m.run v).1
  rw [hresult]

end Action

/-- A property as a relation: each world that has it is related to itself. -/
def Only (P : World → Prop) (w v : World) : Prop :=
  w = v ∧ P w

namespace Action

variable {P : World → Prop} {a : Action α}

/-- To agree on the worlds with a property is to keep it. -/
theorem agrees_only : Agrees (Only P) a ↔ ∀ w, P w → P (exec a w).2 := by
  constructor
  · intro h w hw
    exact (h w w ⟨rfl, hw⟩).2.2
  · rintro h w v ⟨rfl, hw⟩
    exact ⟨rfl, rfl, h w hw⟩

end Action

end FormulaOcr
