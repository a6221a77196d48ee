import FormulaOcr.Proofs.SiliconFlow.Answers
import FormulaOcr.Proofs.SimpleTex.Bookkeeping
import FormulaOcr.Proofs.SimpleTex.Pictures

/-! What recognitions complain of once a service is chosen: of the credential, of the picture and of
the answers, but no longer of the selector. -/

namespace FormulaOcr

open FormulaOcr.Action FormulaOcr.Localization FormulaOcr.Recognition

variable {α β : Type} {P : Complaint → Prop}

namespace Action

/-- Whatever an action complains of has a property, in every world. -/
def FailsOnly (P : Complaint → Prop) (a : Action α) : Prop :=
  ∀ w c, Complained (exec a w).1 c → P c

theorem not_complained_crash (r : Except Crash α) (c : Complaint) :
    ¬ Complained (r.mapError .crash) c := by
  rintro ⟨message, h⟩
  cases r with
  | ok x => cases h
  | error e => cases h

namespace FailsOnly

/-- An action that always has a result complains of nothing. -/
theorem of_ok {a : Action α} (h : ∀ w, ∃ x, (exec a w).1 = .ok x) : FailsOnly P a := by
  rintro w c ⟨message, hended⟩
  obtain ⟨x, hx⟩ := h w
  cases hx.symm.trans hended

theorem pure (x : α) : FailsOnly P (pure x) :=
  of_ok fun _ => ⟨x, rfl⟩

theorem ofCrash (r : Except Crash α) : FailsOnly P (ofCrash r) := by
  intro w c hc
  rw [exec_ofCrash] at hc
  exact absurd hc (not_complained_crash r c)

theorem complain {c : Complaint} (hc : P c) : FailsOnly P (complain c : Action α) := by
  intro w d hd
  obtain ⟨htold, -⟩ := ((comesTo_complain c w).complained d).1 hd
  obtain rfl := Problem.complaint.inj (Except.error.inj htold)
  exact hc

theorem ofComplaint {r : Except Complaint α} (hr : ∀ c, r = .error c → P c) :
    FailsOnly P (ofComplaint r) := by
  cases r with
  | ok x => exact pure x
  | error c => exact complain (hr c rfl)

theorem bind {a : Action α} {f : α → Action β} (ha : FailsOnly P a) (hf : ∀ x, FailsOnly P (f x)) :
    FailsOnly P (a >>= f) := by
  intro w c hc
  rw [exec_bind] at hc
  cases hexec : exec a w with
  | mk result v =>
    rw [hexec] at hc
    cases result with
    | ok x => exact hf x v c hc
    | error e =>
      refine ha w c ?_
      rw [hexec]
      obtain ⟨message, hended⟩ := hc
      exact ⟨message, congrArg Except.error (Except.error.inj hended)⟩

theorem ite {d : Prop} [Decidable d] {a b : Action α} (ha : FailsOnly P a) (hb : FailsOnly P b) :
    FailsOnly P (if d then a else b) := by
  split_ifs
  · exact ha
  · exact hb

theorem guarded {d : Prop} [Decidable d] {c : Complaint} (hc : P c) {a : Action α}
    (ha : FailsOnly P a) : FailsOnly P (if d then (do Action.complain c; a) else a) :=
  ite ((complain hc).bind fun _ => ha) ha

/-- A failure that is taken as a result is none. -/
theorem attempt (a : Action α) : FailsOnly P (attempt a) := by
  rintro w c ⟨message, hended⟩
  rw [exec_attempt] at hended
  generalize exec a w = done at hended
  obtain ⟨result, v⟩ := done
  cases result with
  | ok x => cases hended
  | error e => cases e <;> cases hended

/-- Words are there, or their absence is a crash. -/
theorem wording (key : String) (values : Dictionary Json) : FailsOnly P (wording key values) := by
  have htranslator : FailsOnly P translator := by
    intro w c hc
    rw [exec_translator] at hc
    exact absurd hc (not_complained_crash w.translator c)
  exact ((ofCrash _).bind fun _ => htranslator.bind fun t => ofCrash (t.translate key values)).bind
    fun j => pure j.display

theorem counterPath : FailsOnly P counterPath := by
  have hget : FailsOnly P (get : Action World) := of_ok fun w => ⟨w, rfl⟩
  have hset (v : World) : FailsOnly P (set v : Action PUnit) := of_ok fun _ => ⟨⟨⟩, rfl⟩
  have hmodify (f : World → World) : FailsOnly P (modify f : Action PUnit) :=
    of_ok fun _ => ⟨⟨⟩, rfl⟩
  have hdirectory : FailsOnly P dataDirectory :=
    hget.bind fun w => (ofCrash _).bind fun path => hget.bind fun v =>
      (hset _).bind fun _ => (ofCrash _).bind fun _ => pure path
  refine hget.bind fun w => ?_
  cases w.counterPath with
  | some path => exact pure path
  | none => exact hdirectory.bind fun dir => (hmodify _).bind fun _ => pure _

/-- A recognition is counted, or the disk refuses it. -/
theorem countRecognition (id : String) : FailsOnly P (countRecognition id) := by
  have hread (p : Path) : FailsOnly P (readFile p) := of_ok fun w => ⟨_, by rw [exec_readFile]⟩
  have hload : FailsOnly P loadUsage := counterPath.bind fun p => (hread p).bind fun j => pure _
  have hget : FailsOnly P (get : Action World) := of_ok fun w => ⟨w, rfl⟩
  have hwrite (p : Path) (text : List Char) : FailsOnly P (writeFile p text) := by
    rintro w c ⟨message, hended⟩
    rcases writeFile_ends p text w with hok | ⟨f, hf⟩
    · cases hok.symm.trans hended
    · cases hf.symm.trans hended
  exact counterPath.bind fun p => hload.bind fun usage => hget.bind fun w => hwrite p _

/-- A call whose response is read is complained of as a response or as a call. -/
theorem send {read : Response → Except Problem α}
    (hread : ∀ r c, read r = .error (.complaint c) → P c)
    (hfailed : ∀ detail, P (.requestFailed detail)) (p : Provider) (verb : Verb) (path : String)
    (credential : Json) (headers : List (String × Json)) (payload : Payload) :
    FailsOnly P (p.send verb path credential headers payload >>= fun r => ofProblem (read r)) := by
  intro w c hc
  have hcalls := callsFor_send read p verb path credential headers payload w
  cases htimeout : w.configuration.timeout with
  | error e =>
    rw [hcalls.untimed e htimeout] at hc
    exact absurd hc (not_complained_crash (.error e) c)
  | ok x =>
    obtain ⟨htold, -⟩ := ((hcalls.timed x htimeout).complained c).1 hc
    cases houtcome : w.outcome with
    | response r =>
      rw [houtcome] at htold
      exact hread r c htold
    | interrupted i =>
      rw [houtcome] at htold
      dsimp only [Outcome.told] at htold
      split_ifs at htold
      · obtain rfl := Problem.complaint.inj (Except.error.inj htold)
        exact hfailed i.detail
      · cases htold

end FailsOnly

end Action

/-! Complaints about the selector. -/

/-- A complaint that a selector names no provider that there is, or chooses no model. -/
def Complaint.AboutSelector (c : Complaint) : Prop :=
  c.kind = .noModelSelected ∨ ∃ name, c = .unknownProvider name

theorem Complaint.not_aboutSelector {c : Complaint} (hkind : c.kind ≠ .noModelSelected)
    (hother : c.kind ≠ .validation ∨ c.key ≠ "errors.unknown_provider") : ¬ c.AboutSelector := by
  rintro (h | ⟨name, rfl⟩)
  · exact hkind h
  · exact hother.elim (fun h => h rfl) fun h => h rfl

/-- What SimpleTex answers is of a class of its own. -/
theorem SimpleTex.reading_spares {r : Response} {c : Complaint}
    (h : reading r = .error (.complaint c)) : ¬ c.AboutSelector := by
  have hrejected : ¬ Accepted r := fun haccepted => reading_accepted haccepted c h
  obtain ⟨d, hd, hkind⟩ := reading_rejected hrejected
  obtain rfl := Problem.complaint.inj (Except.error.inj (h.symm.trans hd))
  have hclass : kindOf r ≠ .noModelSelected ∧ kindOf r ≠ .validation := by
    unfold kindOf kindFor
    split_ifs <;> decide
  exact Complaint.not_aboutSelector (hkind ▸ hclass.1) (.inl (hkind ▸ hclass.2))

theorem SimpleTex.decodeImage_spares {image : String} {c : Complaint}
    (h : decodeImage image = .error c) : ¬ c.AboutSelector := by
  rcases decodeImage_error h with rfl | ⟨f, rfl⟩
  · exact Complaint.not_aboutSelector (by decide) (.inr (by decide))
  · exact Complaint.not_aboutSelector FailureKind.noConfusion
      (.inr fun hkey => absurd hkey (by simp [Complaint.imageUndecodable]))

/-- A refusal is of a class of its own, or about the size of the picture. -/
theorem SiliconFlow.refusal_spares (r : Response) : ¬ (refusal r).AboutSelector := by
  have hclass : refusedAs r ≠ .noModelSelected ∧ refusedAs r ≠ .validation := by
    unfold refusedAs
    split_ifs <;> decide
  obtain ⟨hunexplained, hexplained⟩ := refusal_eq r
  by_cases hnone : (messageIn? r).getD "" = ""
  · rw [hunexplained hnone]
    exact Complaint.not_aboutSelector hclass.1 (.inl hclass.2)
  · cases hmessage : messageIn? r with
    | none => simp [hmessage] at hnone
    | some message =>
      have hne : message ≠ "" := by simpa [hmessage] using hnone
      by_cases hsmall : TooSmall message
      · rw [(hexplained message hmessage hne).1 hsmall]
        exact Complaint.not_aboutSelector (by decide) (.inr (by decide))
      · rw [(hexplained message hmessage hne).2 hsmall]
        exact Complaint.not_aboutSelector hclass.1 (.inl hclass.2)

theorem SiliconFlow.reading_spares {r : Response} {c : Complaint}
    (h : reading r = .error (.complaint c)) : ¬ c.AboutSelector := by
  rw [reading_eq_heard] at h
  cases hheard : heard (.response r) with
  | ok text =>
    rw [hheard] at h
    cases h
  | error d =>
    rw [hheard] at h
    obtain rfl := Problem.complaint.inj (Except.error.inj h)
    cases hsuccess : r.isSuccess with
    | false =>
      rw [heard_refused hsuccess] at hheard
      obtain rfl := Except.error.inj hheard
      exact refusal_spares r
    | true =>
      cases hbody : Response.jsonOfBytes r.body with
      | ok payload =>
        rw [heard, if_pos hsuccess, hbody] at hheard
        cases hheard
      | error f =>
        rw [heard_unreadable hsuccess hbody] at hheard
        obtain rfl := Except.error.inj hheard
        exact Complaint.not_aboutSelector FailureKind.noConfusion (.inl FailureKind.noConfusion)

/-! Recognitions by a service. -/

namespace Recognition

theorem requestFailed_spares (detail : String) : ¬ (Complaint.requestFailed detail).AboutSelector :=
  Complaint.not_aboutSelector FailureKind.noConfusion (.inl FailureKind.noConfusion)

theorem spares_ask (key : Json) (imageUrl modelId prompt : String) :
    FailsOnly (¬ ·.AboutSelector) (SiliconFlow.ask key imageUrl modelId prompt) :=
  FailsOnly.send (fun _ _ => SiliconFlow.reading_spares) requestFailed_spares _ _ _ _ _ _

theorem spares_withSiliconFlow (key image : String) (mode : Mode) (modelId : String) :
    FailsOnly (¬ ·.AboutSelector) (withSiliconFlow key image mode modelId) := by
  have hkey : ¬ Complaint.keyNotConfigured.AboutSelector :=
    Complaint.not_aboutSelector (by decide) (.inl (by decide))
  have hverify (imageUrl primary : String) :
      FailsOnly (¬ ·.AboutSelector) (verify key imageUrl modelId primary) := by
    refine (FailsOnly.attempt _).bind fun tried => ?_
    cases tried <;> exact FailsOnly.pure _
  exact FailsOnly.guarded hkey ((spares_ask _ _ _ _).bind fun primary =>
    FailsOnly.ite (FailsOnly.pure _) (FailsOnly.ite (hverify _ primary) (FailsOnly.pure _)))

theorem spares_withSimpleTex (token image : String) (mode : Mode) (modelId : String) :
    FailsOnly (¬ ·.AboutSelector) (withSimpleTex token image mode modelId) := by
  have htoken : ¬ Complaint.tokenNotConfigured.AboutSelector :=
    Complaint.not_aboutSelector (by decide) (.inl (by decide))
  have hrecognize : FailsOnly (¬ ·.AboutSelector) (SimpleTex.recognize (.str token) image modelId
      (SimpleTex.uploadMode modelId mode)) :=
    (FailsOnly.ofComplaint fun _ => SimpleTex.decodeImage_spares).bind fun bytes =>
      FailsOnly.send (fun _ _ => SimpleTex.reading_spares) requestFailed_spares _ _ _ _ _ _
  have hname : FailsOnly (¬ ·.AboutSelector) (SimpleTex.displayName modelId) := by
    unfold SimpleTex.displayName
    cases SimpleTex.findModel? modelId with
    | some model => exact FailsOnly.wording _ _
    | none => exact FailsOnly.pure _
  exact FailsOnly.guarded htoken (hrecognize.bind fun found =>
    (FailsOnly.countRecognition modelId).bind fun _ => hname.bind fun name =>
      (FailsOnly.wording _ _).bind fun label => FailsOnly.pure _)

/-- A service that is chosen complains of the selector no longer. -/
theorem Inquiry.spares_served (q : Inquiry) : FailsOnly (¬ ·.AboutSelector) q.served := by
  unfold served
  cases q.provider with
  | simpletex => exact spares_withSimpleTex _ _ _ _
  | siliconflow => exact spares_withSiliconFlow _ _ _ _

end Recognition

end FormulaOcr
