import FormulaOcr.Proofs.SimpleTex.Verdicts
import FormulaOcr.Proofs.Store.Credentials

/-! Tokens that are cleared. A token is rejected when it is saved if a test would call it
invalid, and at one answer besides: one that is accepted, and carries the code of a bad token all
the same. -/

namespace FormulaOcr

open FormulaOcr.Action FormulaOcr.Localization FormulaOcr.Recognition

namespace SimpleTex

variable {r : Response} {w : World} {x : Binary64} {token : String}

theorem kindOf_eq_auth : kindOf r = .auth ↔ r.status = 401 ∨ codeIn? r = some unauthorized := by
  unfold kindOf kindFor
  split_ifs with hstatus hcode <;> simp_all

/-- A token is rejected if it is told to be invalid, and also at a code in an answer that is
accepted. -/
theorem accepts_eq_false_iff (r : Response) :
    accepts r = false ↔
      verdict r = .tokenInvalid ∨ verdict r = .accepted ∧ codeIn? r = some unauthorized := by
  have hrejects : accepts r = false ↔ kindOf r = .auth := by
    rw [accepts, json_bind_errorCode, kindOf_eq_auth, or_iff_not_imp_left]
    simp
  have hkind := kind_verdict r
  have hinvalid : verdict r = .tokenInvalid ↔ ¬ Accepted r ∧ kindOf r = .auth := by
    rw [show verdict r = .tokenInvalid ↔ (verdict r).kind? = some .auth by
      cases verdict r <;> simp [Verdict.kind?], hkind]
    split_ifs with haccepted <;> simp [haccepted]
  have haccepted : verdict r = .accepted ↔ Accepted r := by
    rw [show verdict r = .accepted ↔ (verdict r).kind? = none by
      cases verdict r <;> simp [Verdict.kind?], hkind]
    split_ifs with haccepted <;> simp [haccepted]
  rw [hrejects, hinvalid, haccepted]
  -- of the two reasons to reject, an answer that is accepted can only have the code
  by_cases h : Accepted r
  · rw [kindOf_eq_auth]
    simp [h, status_of_success h.1]
  · simp [h]

theorem exec_validate_response (htimeout : w.configuration.timeout = .ok x)
    (houtcome : w.outcome = .response r) (token : Json) :
    ∃ call, exec (validate token) w = (.ok (accepts r), w.called call (taken w.network).2) := by
  obtain ⟨call, hreached⟩ := exec_reach_response htimeout houtcome token
  exact ⟨call, by rw [validate, exec_bind_ok hreached]; rfl⟩

/-- What is stored for a token that is saved. -/
def kept (r : Response) (token : String) : String :=
  if accepts r then token else ""

/-- A token that is saved is stored or cleared, as the answer has it. -/
theorem leads_saveCredential_kept (hopen : w.store.isSome = true)
    (htimeout : w.configuration.timeout = .ok x) (houtcome : w.outcome = .response r)
    (htoken : token ≠ "") (complaintKey : String) :
    Leads (Command.saveCredential .simpletex Store.tokenName complaintKey (.str token)) w
      (fun _ => World.Bears Store.tokenName (kept r token))
      (World.Bears Store.tokenName (kept r token)) := by
  obtain ⟨call, hvalidated⟩ := exec_validate_response htimeout houtcome (.str token)
  have hthere : (!(Json.str token).isTruthy) = false := by simpa [Json.isTruthy] using htoken
  have hset {v : World} (hv : v.store.isSome = true) (text : String) :
      Leads (setStored Store.tokenName (.str text)) v
        (fun _ => World.Bears Store.tokenName text) (World.Bears Store.tokenName text) :=
    Leads.of_exec rfl (fun _ _ => bears_setStored hv _ _) fun _ _ => bears_setStored hv _ _
  have hvalidate : Leads (Provider.simpletex.validate (.str token)) w
      (fun accepted v => accepted = accepts r ∧ v.store.isSome = true)
      (World.Bears Store.tokenName (kept r token)) :=
    Leads.of_exec hvalidated (fun _ h => ⟨(Except.ok.inj h).symm, hopen⟩) fun _ h => by cases h
  unfold Command.saveCredential
  rw [hthere, if_neg (by simp)]
  apply hvalidate.bind
  intro accepted v hv
  obtain ⟨rfl, hv⟩ := hv
  unfold kept
  split_ifs
  · exact (hset hv token).bind fun _ _ hu => Leads.pure hu
  · -- the token is cleared before the error is worded, which may fail
    apply (hset hv "").bind
    intro _ u hu
    exact (Leads.of_agrees ((basics_bears _ _).wording _ _) hu).bind fun _ _ hu' => Leads.pure hu'

/-- The other settings that are saved with a token leave it alone. -/
theorem bears_runSaveSettings (hopen : w.store.isSome = true)
    (htimeout : w.configuration.timeout = .ok x) (houtcome : w.outcome = .response r)
    (htoken : token ≠ "") (key model voucherText : Json) :
    (exec (Command.runSaveSettings (.str token) key model voucherText) w).2.Bears
      Store.tokenName (kept r token) := by
  have hafter {other : String} (hne : other ≠ Store.tokenName) (value : Json) :
      Agrees (Only (World.Bears Store.tokenName (kept r token))) (setStored other value) :=
    agrees_only.2 fun u hu => hu.setStored hne value
  have hvouchers (vouchers : Json) (errors : List String) :
      Agrees (Only (World.Bears Store.tokenName (kept r token))) (do
        let ids ← ofCrash (Command.parseVouchers vouchers)
        setStored Store.vouchersName (.texts ids)
        return errors) :=
    (Agrees.ofCrash _).bind fun ids => (hafter (by decide) _).bind fun _ => Agrees.pure _
  have hsaved : Leads (Command.runSaveSettings (.str token) key model voucherText) w
      (fun _ => World.Bears Store.tokenName (kept r token))
      (World.Bears Store.tokenName (kept r token)) := by
    unfold Command.runSaveSettings
    apply (leads_saveCredential_kept hopen htimeout houtcome htoken _).bind
    intro tokenErrors v hv
    refine Leads.of_agrees ?_ hv
    refine ((basics_bears _ _).saveCredential .siliconflow _ (hafter (by decide) _)
      fun _ => hafter (by decide) _).bind fun keyErrors => ?_
    cases voucherText with
    | null =>
      cases model with
      | null => exact Agrees.pure _
      | _ => exact (hafter (by decide) _).bind fun _ => Agrees.pure _
    | _ =>
      cases model with
      | null => exact hvouchers _ _
      | _ => exact (hafter (by decide) _).bind fun _ => hvouchers _ _
  cases hexec : exec (Command.runSaveSettings (.str token) key model voucherText) w with
  | mk result v =>
    cases result with
    | ok errors => exact hsaved.result errors v hexec
    | error e => exact hsaved.early e v hexec

/-- A token is found invalid when it is saved if a test of it would tell the same, and also where
the test tells that all is well, if the answer carries the code of a bad token. Saving it clears the
token then; otherwise it is stored. Without a time to wait, neither comes to an end. -/
theorem validate_verdict (houtcome : w.outcome = .response r) (htoken : token ≠ "") :
    (∀ x, w.configuration.timeout = .ok x → ∃ valid,
      (exec (validate (.str token)) w).1 = .ok valid ∧
      (valid = false ↔ verdict r = .tokenInvalid ∨
        verdict r = .accepted ∧ codeIn? r = some unauthorized) ∧
      (∃ v, exec (probe (.str token)) w = exec (report r) v ∧
        v.translator = w.translator) ∧
      (w.store.isSome = true → ∀ key model voucherText : Json,
        (exec (Command.runSaveSettings (.str token) key model voucherText) w).2.Bears
          Store.tokenName (if valid then token else ""))) ∧
    (∀ e, w.configuration.timeout = .error e →
      exec (validate (.str token)) w = (.error (.crash e), w) ∧
      exec (probe (.str token)) w = (.error (.crash e), w)) := by
  constructor
  · intro x htimeout
    obtain ⟨call, hvalidated⟩ := exec_validate_response htimeout houtcome (.str token)
    obtain ⟨call', hprobed⟩ := exec_probe_response htimeout houtcome htoken
    exact ⟨accepts r, by rw [hvalidated], accepts_eq_false_iff r, ⟨_, hprobed, rfl⟩,
      fun hopen => bears_runSaveSettings hopen htimeout houtcome htoken⟩
  · intro e htimeout
    have hreached := exec_reach_untimed htimeout (.str token)
    exact ⟨exec_bind_error hreached _, by rw [probe_there htoken, exec_bind_error hreached]⟩

/-- An answer that is accepted and carries the code of a bad token. -/
def selfContradictory : Response :=
  ⟨200, Encoding.Utf8.encodeString "\x7b\"status\": true, \"errType\": \"req_unauthorized\"\x7d"⟩

/-- A service in English with a token, and this answer. -/
def contradicted : World :=
  { answering with
    network := [.response selfContradictory]
    store := some ⟨⟨"/", ["data", "config.json"]⟩, [(Store.tokenName, .str "t")]⟩ }

/-- The test tells that the token is good, and saving it clears it. -/
theorem validate_verdict_contradicted :
    (exec (validate (.str "t")) contradicted).1 = .ok false ∧
      (exec (probe (.str "t")) contradicted).1 = .ok { ok := true } ∧
      (exec (Command.runSaveSettings (.str "t") .null .null .null) contradicted).2.Bears
        Store.tokenName "" := by
  have htimeout : contradicted.configuration.timeout =
      .ok (.finite false (120 * Binary64.unitsPerOne)) := eq_ok_of_toOption (by decide +kernel)
  have hverdict : verdict selfContradictory = .accepted := by decide +kernel
  have hcode : codeIn? selfContradictory = some unauthorized := by decide +kernel
  obtain ⟨valid, hvalid, hrejects, ⟨v, hprobed, -⟩, hkept⟩ :=
    (validate_verdict (w := contradicted) rfl (by decide : "t" ≠ "")).1 _ htimeout
  obtain rfl : valid = false := hrejects.2 (.inr ⟨hverdict, hcode⟩)
  refine ⟨hvalid, ?_, hkept rfl .null .null .null⟩
  rw [hprobed, report, hverdict]
  rfl

end SimpleTex

end FormulaOcr
