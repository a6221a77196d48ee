import FormulaOcr.Proofs.Commands

/-! What actions lead to: one property of the world for an action that has a result, and another one
for an action that ends early. -/

namespace FormulaOcr

namespace Action

variable {α β : Type}

/-- What an action leads to: a world with one property if it has a result, and a world with another
one if it ends early. -/
structure Leads (a : Action α) (w : World) (Q : α → World → Prop) (E : World → Prop) : Prop where
  result : ∀ x v, exec a w = (.ok x, v) → Q x v
  early : ∀ e v, exec a w = (.error e, v) → E v

variable {a : Action α} {f : α → Action β} {w : World} {Q : α → World → Prop}
  {Q' : β → World → Prop} {E : World → Prop}

theorem Leads.of_exec {done : Except Fault α × World} (h : exec a w = done)
    (hok : ∀ x, done.1 = .ok x → Q x done.2) (herror : ∀ e, done.1 = .error e → E done.2) :
    Leads a w Q E := by
  subst h
  refine ⟨fun x v hexec => ?_, fun e v hexec => ?_⟩
  · rw [hexec] at hok
    exact hok x rfl
  · rw [hexec] at herror
    exact herror e rfl

theorem Leads.pure {x : α} (h : Q x w) : Leads (pure x) w Q E := by
  refine Leads.of_exec (exec_pure x w) (fun y hy => ?_) (fun e he => nomatch he)
  rwa [← Except.ok.inj hy]

theorem Leads.bind (ha : Leads a w Q E) (hf : ∀ x v, Q x v → Leads (f x) v Q' E) :
    Leads (a >>= f) w Q' E := by
  cases h : exec a w with
  | mk result v =>
    cases result with
    | ok x =>
      have hx := hf x v (ha.result x v h)
      refine ⟨fun y u hexec => hx.result y u ?_, fun e u hexec => hx.early e u ?_⟩
      · rwa [exec_bind_ok h] at hexec
      · rwa [exec_bind_ok h] at hexec
    | error e =>
      refine Leads.of_exec (exec_bind_error h f) (fun y hy => nomatch hy) fun e' he => ?_
      exact ha.early e v h

theorem Leads.mono {Q₁ : α → World → Prop} {E₁ : World → Prop} (h : Leads a w Q E)
    (hQ : ∀ x v, Q x v → Q₁ x v) (hE : ∀ v, E v → E₁ v) : Leads a w Q₁ E₁ :=
  ⟨fun x v hexec => hQ x v (h.result x v hexec), fun e v hexec => hE v (h.early e v hexec)⟩

/-- What keeps a property leads from it to it. -/
theorem Leads.of_agrees (ha : Agrees (Only E) a) (hw : E w) : Leads a w (fun _ => E) E :=
  Leads.of_exec rfl (fun _ _ => agrees_only.1 ha w hw) fun _ _ => agrees_only.1 ha w hw

/-- The same, where nothing is asked of an early end. -/
theorem Leads.kept {P : World → Prop} (ha : Agrees (Only P) a) (hw : P w) :
    Leads a w (fun _ => P) fun _ => True :=
  (Leads.of_agrees ha hw).mono (fun _ _ h => h) fun _ _ => trivial

/-- What keeps a property and has a result keeps it with the result. -/
theorem Leads.of_ok {P : World → Prop} (ha : Agrees (Only P) a) (hw : P w)
    (hok : ∃ x v, exec a w = (.ok x, v)) : Leads a w (fun _ => P) E := by
  obtain ⟨x, v, hexec⟩ := hok
  have hkept := agrees_only.1 ha w hw
  rw [hexec] at hkept
  exact Leads.of_exec hexec (fun _ _ => hkept) fun e he => nomatch he

theorem Leads.ofCrash (r : Except Crash α) (hw : E w) :
    Leads (ofCrash r) w (fun x v => r = .ok x ∧ v = w) E := by
  cases r with
  | ok x => exact Leads.pure ⟨rfl, rfl⟩
  | error c => exact Leads.of_exec (exec_throw _ w) (fun y hy => nomatch hy) fun _ _ => hw

theorem Leads.complain (h : Basics (Only E)) (hw : E w) (c : Complaint) :
    Leads (complain c : Action α) w Q E := by
  apply (Leads.ofCrash _ hw).bind
  intro _ v hv
  rw [hv.2]
  apply (Leads.of_agrees (h.wording c.key c.values) hw).bind
  intro message u hu
  exact Leads.of_exec (exec_throw _ u) (fun y hy => nomatch hy) fun _ _ => hu

theorem Leads.ofComplaint (h : Basics (Only E)) (hw : E w) (r : Except Complaint α) :
    Leads (ofComplaint r) w (fun x v => r = .ok x ∧ v = w) E := by
  cases r with
  | ok x => exact Leads.pure ⟨rfl, rfl⟩
  | error c => exact Leads.complain h hw c

theorem Leads.storedText (name : String) :
    Leads (storedText name) w
      (fun x v => x = (w.store.getD ⟨⟨"", []⟩, []⟩).text name ∧ v = w) E := by
  have hexec : exec (Action.storedText name) w =
      (.ok ((w.store.getD ⟨⟨"", []⟩, []⟩).text name), w) := rfl
  exact Leads.of_exec hexec (fun x hx => ⟨(Except.ok.inj hx).symm, rfl⟩) fun e he => nomatch he

/-- An action that begins with a complaint under a condition goes on without it. -/
theorem Leads.guarded {c : Prop} [Decidable c] (h : Basics (Only E)) (hw : E w)
    (complaint : Complaint) {b : Action α} (hb : ¬ c → Leads b w Q E) :
    Leads (if c then (do Action.complain complaint; b) else b) w Q E := by
  split_ifs with hc
  · exact (Leads.complain (Q := fun _ _ => False) h hw complaint).bind fun x v hx => hx.elim
  · exact hb hc

end Action

end FormulaOcr
