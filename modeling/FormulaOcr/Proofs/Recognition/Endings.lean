import FormulaOcr.Proofs.Recognition.Protocol

/-! How questions to a provider end. A question is a call whose response is read. It has the result
that is read, or fails with what the response is complained of, if the process has words for that;
whatever else happens is a crash. -/

namespace FormulaOcr

open FormulaOcr.Action

/-- What an outcome comes to if its response is read in some way. A cause that lies in the network
is complained of. -/
def Outcome.told {α : Type} (read : Response → Except Problem α) : Outcome → Except Problem α
  | .response r => read r
  | .interrupted i =>
    .error (if i.isNetwork then .complaint (.requestFailed i.detail) else .crash (.interruption i))

/-- The outcome that the network holds ready for the next call. -/
def World.outcome (w : World) : Outcome :=
  (taken w.network).1

section

variable {α : Type} {ended : Except Fault α} {told : Except Problem α} {w : World}

/-- What an action came to is the failure of a complaint. -/
def Complained (ended : Except Fault α) (c : Complaint) : Prop :=
  ∃ message, ended = .error (.failure ⟨c, message⟩)

/-- What an action came to is a failure of some kind. -/
def FailedAs (ended : Except Fault α) (kind : FailureKind) : Prop :=
  ∃ c, Complained ended c ∧ c.kind = kind

/-- What an action came to is a crash. -/
def crashed : Except Fault α → Bool
  | .error (.crash _) => true
  | _ => false

theorem exists_crash (h : crashed ended = true) : ∃ e, ended = .error (.crash e) := by
  unfold crashed at h
  split at h
  · exact ⟨_, rfl⟩
  · exact nomatch h

theorem not_failedAs_of_crashed (h : crashed ended = true) (kind : FailureKind) :
    ¬ FailedAs ended kind := by
  intro hfailed
  obtain ⟨c, ⟨message, hended⟩, -⟩ := hfailed
  rw [hended] at h
  exact nomatch h

/-- An action came to what is told: to the result, or to the complaint if there are words for it,
and then in these words. -/
structure ComesTo (ended : Except Fault α) (told : Except Problem α) (w : World) : Prop where
  result : ∀ x, ended = .ok x ↔ told = .ok x
  complained : ∀ c, Complained ended c ↔ told = .error (.complaint c) ∧ w.Voices c
  worded : ∀ f, ended = .error (.failure f) →
    ∃ t, w.translator = .ok t ∧ f = Action.worded t f.complaint

theorem comesTo_pure (x : α) (w : World) : ComesTo (exec (pure x) w).1 (.ok x) w where
  result y := by simp [exec_pure]
  complained c := by simp [Complained, exec_pure]
  worded f h := nomatch h

theorem comesTo_crash (e : Crash) (w : World) :
    ComesTo (.error (.crash e) : Except Fault α) (.error (.crash e)) w where
  result y := by simp
  complained c := by simp [Complained]
  worded f h := nomatch h

theorem comesTo_complain (c : Complaint) (w : World) :
    ComesTo (exec (complain c : Action α) w).1 (.error (.complaint c)) w := by
  rcases complain_ends (α := α) c w with ⟨e, hended⟩ | ⟨t, ht, hvoices, hended⟩
  · refine ⟨fun y => by simp [hended], fun d => ?_, fun f h => ?_⟩
    · constructor
      · intro hcomplained
        obtain ⟨message, h⟩ := hcomplained
        rw [hended] at h
        exact nomatch h
      · intro htold
        obtain rfl : c = d := Problem.complaint.inj (Except.error.inj htold.1)
        obtain ⟨message, hexec⟩ := exec_complain_voiced (α := α) htold.2
        exact ⟨message, by rw [hexec]⟩
    · rw [hended] at h
      exact nomatch h
  · refine ⟨fun y => by simp [hended], fun d => ?_, fun f h => ?_⟩
    · constructor
      · intro hcomplained
        obtain ⟨message, h⟩ := hcomplained
        rw [hended] at h
        obtain rfl : c = d := congrArg Failure.complaint (Fault.failure.inj (Except.error.inj h))
        exact ⟨rfl, hvoices⟩
      · intro htold
        obtain rfl : c = d := Problem.complaint.inj (Except.error.inj htold.1)
        exact ⟨_, hended⟩
    · rw [hended] at h
      obtain rfl := Fault.failure.inj (Except.error.inj h)
      exact ⟨t, ht, rfl⟩

theorem comesTo_ofProblem (told : Except Problem α) (w : World) :
    ComesTo (exec (ofProblem told) w).1 told w := by
  cases told with
  | ok x => exact comesTo_pure x w
  | error p =>
    cases p with
    | crash e => exact comesTo_crash e w
    | complaint c => exact comesTo_complain c w

theorem ComesTo.failedAs_iff (h : ComesTo ended told w) (kind : FailureKind) :
    FailedAs ended kind ↔ ∃ c, told = .error (.complaint c) ∧ c.kind = kind ∧ w.Voices c := by
  constructor
  · intro hfailed
    obtain ⟨c, hc, hkind⟩ := hfailed
    obtain ⟨htold, hvoices⟩ := (h.complained c).1 hc
    exact ⟨c, htold, hkind, hvoices⟩
  · intro htold
    obtain ⟨c, hc, hkind, hvoices⟩ := htold
    exact ⟨c, (h.complained c).2 ⟨hc, hvoices⟩, hkind⟩

end

namespace Action

variable {α : Type} {told : Except Problem α} {w : World}

/-- Nothing follows a complaint. -/
theorem complain_bind {β : Type} (c : Complaint) (f : α → Action β) :
    complain c >>= f = complain c :=
  funext fun w => exec_complain_bind c f w

theorem ofProblem_map {β : Type} (told : Except Problem α) (f : α → β) :
    ofProblem (told.map f) = (do return f (← ofProblem told)) := by
  cases told with
  | ok x => rfl
  | error p =>
    cases p with
    | crash e => rfl
    | complaint c => exact (complain_bind c _).symm

/-- An action makes a call and comes to what is told of its outcome. If the time to wait is no
number, it crashes instead. -/
structure CallsFor (a : Action α) (told : Except Problem α) (w : World) : Prop where
  timed : ∀ x, w.configuration.timeout = .ok x → ComesTo (exec a w).1 told w
  untimed : ∀ e, w.configuration.timeout = .error e → exec a w = (.error (.crash e), w)

/-- A question is a call whose response is read. -/
theorem callsFor_send (read : Response → Except Problem α) (p : Provider) (verb : Verb)
    (path : String) (credential : Json) (headers : List (String × Json)) (payload : Payload)
    (w : World) :
    CallsFor (p.send verb path credential headers payload >>= fun r => ofProblem (read r))
      (w.outcome.told read) w where
  timed x hx := by
    have hsent := exec_send_timed hx p verb path credential headers payload _ rfl
    generalize Call.mk verb _ _ _ _ = call at hsent
    -- a call changes nothing that words depend on
    have hcalled (e : Except Problem α) {ended : Except Fault α}
        (h : ComesTo ended e (w.called call (taken w.network).2)) : ComesTo ended e w :=
      ⟨h.result, h.complained, h.worded⟩
    unfold World.outcome
    rw [exec_bind, hsent]
    cases (taken w.network).1 with
    | response r => exact hcalled _ (comesTo_ofProblem (read r) _)
    | interrupted i =>
      dsimp only [givenBack, Outcome.told]
      split_ifs with hnetwork
      · have hended := exec_complain_bind (.requestFailed i.detail) (fun r => ofProblem (read r))
          (w.called call (taken w.network).2)
        rw [exec_bind] at hended
        dsimp only at hended ⊢
        rw [hended]
        exact hcalled _ (comesTo_complain _ _)
      · exact comesTo_crash _ w
  untimed e he := exec_bind_error (exec_send_untimed he p verb path credential headers payload) _

end Action

/-- The service with a table of its own, in which the message about a failed call cannot be filled
in, and a call that finds no server. -/
def Recognition.unreachable : World :=
  { misworded with network := [.interrupted ⟨"ConnectError", "down"⟩] }

end FormulaOcr
