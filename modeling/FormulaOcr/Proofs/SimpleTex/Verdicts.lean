import FormulaOcr.Proofs.Localization.Languages
import FormulaOcr.Proofs.SimpleTex.Classes

/-! Tests of a token. What a test finds out about an answer foretells whether a recognition with the
same answer fails, and in which class. -/

namespace FormulaOcr

open FormulaOcr.Action FormulaOcr.Localization FormulaOcr.Recognition

namespace SimpleTex

/-- What a test of a token finds out: why there is no answer, or the verdict of the answer. -/
inductive Finding
  | unreachable (detail : String)
  | judged (v : Verdict)

def finding : Outcome → Finding
  | .response r => .judged (verdict r)
  | .interrupted i => .unreachable i.detail

/-- A test that found something wrong. -/
def failing (error : String) : Probe :=
  { ok := false, error := some error }

/-- A verdict in the words of a translator. -/
def Verdict.told (t : Translator) : Verdict → Probe
  | .accepted => { ok := true }
  | .tokenInvalid => failing (t.say "probe.token_invalid" [])
  | .noResource => failing (t.say "probe.no_resource" [])
  | .serverError status => failing (t.say "probe.server_error" [("status", .int status)])
  | .code text => failing text
  | .unknown => failing (t.say "probe.unknown_error" [])

/-- What is found out, in the words of a translator. -/
def Finding.told (t : Translator) : Finding → Probe
  | .unreachable detail => failing (t.say "probe.network_error" [("detail", .str detail)])
  | .judged v => v.told t

/-- The class of the failure that a verdict foretells; none if it foretells none. -/
def Verdict.kind? : Verdict → Option FailureKind
  | .accepted => none
  | .tokenInvalid => some .auth
  | .noResource => some .quotaExhausted
  | .serverError _ | .code _ | .unknown => some .provider

def Finding.kind? : Finding → Option FailureKind
  | .unreachable _ => some .network
  | .judged v => v.kind?

/-! The verdict. -/

variable {r : Response}

theorem kind_verdictOf (code : Option String) (v : Verdict) (hv : v.kind? = some .provider) :
    ((verdictOf? code).getD v).kind? = some (kindFor code) := by
  unfold verdictOf? kindFor
  split_ifs
  · rfl
  · rfl
  · exact hv

theorem kind_otherVerdict (r : Response) (code : Option String) :
    (otherVerdict r code).kind? = some .provider := by
  unfold otherVerdict
  split_ifs
  · rfl
  · split
    · split_ifs <;> rfl
    · rfl

theorem json_bind_errorCode (r : Response) :
    errorCode? (r.json?.getD .null) = codeIn? r := by
  unfold codeIn?
  cases r.json? with
  | none => rfl
  | some payload => rfl

/-- A verdict foretells the class of a response, and no failure of one that is accepted. -/
theorem kind_verdict (r : Response) :
    (verdict r).kind? = if Accepted r then none else some (kindOf r) := by
  rw [if_congr accepted_iff rfl rfl]
  unfold verdict kindOf
  dsimp only
  rw [json_bind_errorCode]
  -- the cases in the order of the test: a status of 401, any other failure, then the flag
  by_cases hstatus : r.status = 401
  · have hfailure : ¬ (r.isSuccess = true) := fun h => status_of_success h hstatus
    rw [if_pos hstatus, if_pos hstatus, if_neg fun h => hfailure h.1]
    rfl
  · rw [if_neg hstatus, if_neg hstatus]
    rw [apply_ite Verdict.kind?, kind_verdictOf _ _ (kind_otherVerdict r _)]
    simp only [Bool.and_eq_true, Verdict.kind?]

/-- A code is passed on as it is only if it says something. -/
theorem ne_empty_of_verdict {text : String} (h : verdict r = .code text) : text ≠ "" := by
  have hother (code : Option String) (h : otherVerdict r code = .code text) : text ≠ "" := by
    unfold otherVerdict at h
    split_ifs at h
    split at h
    · split_ifs at h with hempty
      rwa [← Verdict.code.inj h]
    · exact nomatch h
  unfold verdict verdictOf? at h
  dsimp only at h
  split_ifs at h
  · exact nomatch h
  · exact nomatch h
  · exact hother _ h

/-- What is found out about an outcome of a network foretells its class. -/
theorem kind_finding {o : Outcome} (hnetwork : SiliconFlow.FromNetwork o) (kind : FailureKind) :
    (finding o).kind? = some kind ↔ Classed o kind := by
  cases o with
  | response r =>
    rw [classed_response_iff, finding, Finding.kind?, kind_verdict]
    split_ifs with haccepted
    · simp [haccepted]
    · simp [haccepted]
  | interrupted i =>
    have hi : i.isNetwork = true := hnetwork
    cases kind <;> simp [finding, Finding.kind?, Classed, hi]

/-! Telling it. -/

variable {w : World} {t : Translator} {x : Binary64}

theorem exec_failed (hcomplete : t.Complete) (ht : w.translator = .ok t) {key : String}
    {values : Dictionary Json} (h : values = [] ∨ (key, values.keys) ∈ valued) :
    exec (Probe.failed key values) w = (.ok (failing (t.say key values)), w.spoken) := by
  rw [Probe.failed, exec_bind_ok (exec_wording_said hcomplete ht h)]
  rfl

/-- A verdict is put into words as it is told. -/
theorem exec_verdict_report (hcomplete : t.Complete) (ht : w.translator = .ok t) (v : Verdict) :
    ∃ u, exec v.report w = (.ok (v.told t), u) := by
  cases v with
  | accepted => exact ⟨w, rfl⟩
  | code text => exact ⟨w, rfl⟩
  | tokenInvalid => exact ⟨_, exec_failed hcomplete ht (.inl rfl)⟩
  | noResource => exact ⟨_, exec_failed hcomplete ht (.inl rfl)⟩
  | unknown => exact ⟨_, exec_failed hcomplete ht (.inl rfl)⟩
  | serverError status =>
    exact ⟨_, exec_failed hcomplete ht (.inr (valued_one (by decide) _))⟩

theorem error_verdict_told (ht : t ∈ shipped) (hfails : ((verdict r).told t).ok = false) :
    ∃ error, ((verdict r).told t).error = some error ∧ error ≠ "" := by
  cases hverdict : verdict r with
  | accepted =>
    rw [hverdict] at hfails
    exact nomatch hfails
  | code text => exact ⟨text, rfl, ne_empty_of_verdict hverdict⟩
  | tokenInvalid => exact ⟨_, rfl, say_message_ne_empty ht (by decide) (by decide)⟩
  | noResource => exact ⟨_, rfl, say_message_ne_empty ht (by decide) (by decide)⟩
  | unknown => exact ⟨_, rfl, say_message_ne_empty ht (by decide) (by decide)⟩
  | serverError status =>
    exact ⟨_, rfl,
      say_message_ne_empty ht (message_of_valued (valued_one (by decide) _)) (by decide)⟩

/-- A test that fails says why. -/
theorem error_told (ht : t ∈ shipped) (o : Outcome) (hfails : ((finding o).told t).ok = false) :
    ∃ error, ((finding o).told t).error = some error ∧ error ≠ "" := by
  cases o with
  | interrupted i =>
    exact ⟨_, rfl,
      say_message_ne_empty ht (message_of_valued (valued_one (by decide) _)) (by decide)⟩
  | response r => exact error_verdict_told ht hfails

/-- With the shipped tables, an answer is reported as its verdict is told. -/
theorem exec_report (hshipped : t ∈ shipped) (ht : w.translator = .ok t) (r : Response) :
    (exec (report r) w).1 = .ok ((verdict r).told t) := by
  obtain ⟨u, htold⟩ := exec_verdict_report (complete_shipped hshipped) ht (verdict r)
  have hworded : ((verdict r).told t).error ≠ some "" := by
    intro hnone
    have hfails : ((verdict r).told t).ok = false := by
      cases hverdict : verdict r with
      | accepted =>
        rw [hverdict] at hnone
        exact nomatch hnone
      | _ => rfl
    obtain ⟨error, herror, hne⟩ := error_verdict_told hshipped hfails
    exact hne (Option.some.inj (herror.symm.trans hnone))
  rw [report, exec_bind_ok htold, if_neg (by simp [hworded])]
  rfl

/-! The call. -/

/-- A failed call is a result of a test, if its cause lies in the network. -/
theorem exec_reach {α : Type} (a : Action α) (w : World) :
    exec (reach a) w =
      match exec a w with
      | (.ok r, v) => (.ok (.ok r), v)
      | (.error (.failure f), v) =>
        (if f.complaint.kind = .network then .ok (.error f) else .error (.failure f), v)
      | (.error (.crash c), v) => (.error (.crash c), v) := by
  unfold reach
  rw [exec_bind, exec_attempt]
  rcases exec a w with ⟨result, v⟩
  cases result with
  | ok r => rfl
  | error e =>
    cases e with
    | crash c => rfl
    | failure f =>
      dsimp only
      split_ifs <;> rfl

theorem exec_uploadTestImage (htimeout : w.configuration.timeout = .ok x) (token : Json) :
    ∃ call, exec (uploadTestImage token) w =
      match givenBack w.outcome with
      | .ok (.ok r) => (.ok r, w.called call (taken w.network).2)
      | .ok (.error i) =>
        exec (complain (.requestFailed i.detail)) (w.called call (taken w.network).2)
      | .error e => (.error e, w.called call (taken w.network).2) :=
  ⟨_, exec_send_timed htimeout .simpletex .post turboModel.id token [] _ _ rfl⟩

theorem exec_reach_response (htimeout : w.configuration.timeout = .ok x)
    (houtcome : w.outcome = .response r) (token : Json) :
    ∃ call, exec (reach (uploadTestImage token)) w =
      (.ok (.ok r), w.called call (taken w.network).2) := by
  obtain ⟨call, hsent⟩ := exec_uploadTestImage htimeout token
  rw [houtcome] at hsent
  exact ⟨call, by rw [exec_reach, hsent]; rfl⟩

theorem exec_reach_interrupted (htimeout : w.configuration.timeout = .ok x) {i : Interruption}
    (houtcome : w.outcome = .interrupted i) (hi : i.isNetwork = true) (hcomplete : t.Complete)
    (ht : w.translator = .ok t) (token : Json) :
    ∃ v, v.translator = .ok t ∧
      exec (reach (uploadTestImage token)) w =
        (.ok (.error (worded t (.requestFailed i.detail))), v) := by
  obtain ⟨call, hsent⟩ := exec_uploadTestImage htimeout token
  have hcalled : (w.called call (taken w.network).2).translator = .ok t := ht
  have hcomplained := exec_complain (α := Response) hcalled (c := .requestFailed i.detail) rfl
    (hcomplete "errors.request_failed" ["detail"] (by decide))
  rw [houtcome, givenBack, if_pos hi] at hsent
  dsimp only at hsent
  refine ⟨(w.called call (taken w.network).2).spoken, by rw [translator_spoken, hcalled], ?_⟩
  rw [exec_reach, hsent, hcomplained]
  rfl

theorem exec_reach_untimed {e : Crash} (htimeout : w.configuration.timeout = .error e)
    (token : Json) : exec (reach (uploadTestImage token)) w = (.error (.crash e), w) := by
  rw [exec_reach, uploadTestImage, upload, exec_send_untimed htimeout]

theorem probe_there {token : String} (htoken : token ≠ "") :
    probe (.str token) = (reach (uploadTestImage (.str token)) >>= fun
      | .error f => Probe.failed "probe.network_error" [("detail", Probe.detail f)]
      | .ok response => report response) := by
  have hthere : ¬ (!(Json.str token).isTruthy) = true := by simpa [Json.isTruthy] using htoken
  exact if_neg hthere

/-- A test of a token reports the answer. -/
theorem exec_probe_response (htimeout : w.configuration.timeout = .ok x)
    (houtcome : w.outcome = .response r) {token : String} (htoken : token ≠ "") :
    ∃ call, exec (probe (.str token)) w =
      exec (report r) (w.called call (taken w.network).2) := by
  obtain ⟨call, hreached⟩ := exec_reach_response htimeout houtcome (.str token)
  exact ⟨call, by rw [probe_there htoken, exec_bind_ok hreached]⟩

/-- A test of a token tells what it finds out. -/
theorem exec_probe_told (htimeout : w.configuration.timeout = .ok x)
    (hnetwork : SiliconFlow.FromNetwork w.outcome) (hshipped : t ∈ shipped)
    (ht : w.translator = .ok t) {token : String} (htoken : token ≠ "") :
    (exec (probe (.str token)) w).1 = .ok ((finding w.outcome).told t) := by
  have hcomplete := complete_shipped hshipped
  cases houtcome : w.outcome with
  | response r =>
    obtain ⟨call, hprobed⟩ := exec_probe_response htimeout houtcome htoken
    have hcalled : (w.called call (taken w.network).2).translator = .ok t := ht
    rw [hprobed]
    exact exec_report hshipped hcalled r
  | interrupted i =>
    rw [houtcome] at hnetwork
    obtain ⟨v, hv, hreached⟩ :=
      exec_reach_interrupted htimeout houtcome hnetwork hcomplete ht (.str token)
    rw [probe_there htoken, exec_bind_ok hreached]
    exact congrArg Prod.fst (exec_failed hcomplete hv (.inr (valued_one (by decide) _)))

/-- A test tells that all is well exactly if it foretells no failure. -/
theorem ok_told_iff (t : Translator) (f : Finding) : (f.told t).ok = true ↔ f.kind? = none := by
  cases f with
  | unreachable detail => simp [Finding.told, Finding.kind?, failing]
  | judged v => cases v <;> simp [Finding.told, Finding.kind?, Verdict.told, Verdict.kind?, failing]

/-! What a test foretells of a recognition. -/

/-- Each class is foretold in a way of its own. -/
theorem foretold (f : Finding) :
    (f = .judged .tokenInvalid ↔ f.kind? = some .auth) ∧
    (f = .judged .noResource ↔ f.kind? = some .quotaExhausted) ∧
    ((∃ detail, f = .unreachable detail) ↔ f.kind? = some .network) ∧
    ((∃ status, f = .judged (.serverError status)) ∨ (∃ code, f = .judged (.code code)) ∨
      f = .judged .unknown ↔ f.kind? = some .provider) := by
  cases f with
  | unreachable detail => simp [Finding.kind?]
  | judged v => cases v <;> simp [Finding.kind?, Verdict.kind?]

/-- A failed call is told with the same detail. -/
theorem unreachable_iff {o : Outcome} (hnetwork : SiliconFlow.FromNetwork o) (detail : String) :
    finding o = .unreachable detail ↔
      o.told reading = .error (.complaint (.requestFailed detail)) := by
  cases o with
  | response r =>
    -- a response that is complained of as a failed call would be of the class of the network
    refine iff_of_false (fun h => nomatch h) fun h => ?_
    have hclassed : Classed (.response r) .network := (classed_iff_told _ _).2 ⟨_, h, rfl⟩
    exact hclassed
  | interrupted i =>
    have hi : i.isNetwork = true := hnetwork
    simp [finding, Outcome.told, hi, Complaint.requestFailed]

/-- Where messages are in English or in Chinese, a test of a token ends with what it finds out, and
this is how a recognition ends for which the network holds the same outcome: a test that tells that
all is well foretells that the recognition does not fail, and each other finding foretells one class
of failure. A test that fails says why. -/
theorem probe_predicts (htimeout : w.configuration.timeout = .ok x)
    (hnetwork : SiliconFlow.FromNetwork w.outcome) (hinstalled : Installed w.disk)
    (hlanguage : w.configuration.language = "en" ∨ w.configuration.language = "zh")
    (hkept : ∀ t, w.translators.lookup w.configuration.language = some t →
      t = speakerOf w.configuration.language)
    {token : String} (htoken : token ≠ "") {image : String} {bytes : Bytes}
    (hbytes : decodeImage image = .ok bytes) (credential : Json) (modelId : String)
    (mode : Option String) :
    let probed := (finding w.outcome).told (speakerOf w.configuration.language)
    let recognized := (exec (recognize credential image modelId mode) w).1
    (exec (probe (.str token)) w).1 = .ok probed ∧
    (probed.ok = true ↔ ∀ kind, ¬ FailedAs recognized kind) ∧
    (finding w.outcome = .judged .tokenInvalid ↔ FailedAs recognized .auth) ∧
    (finding w.outcome = .judged .noResource ↔ FailedAs recognized .quotaExhausted) ∧
    (∀ detail, finding w.outcome = .unreachable detail ↔
      Complained recognized (.requestFailed detail)) ∧
    ((∃ detail, finding w.outcome = .unreachable detail) ↔ FailedAs recognized .network) ∧
    ((∃ status, finding w.outcome = .judged (.serverError status)) ∨
      (∃ code, finding w.outcome = .judged (.code code)) ∨
      finding w.outcome = .judged .unknown ↔ FailedAs recognized .provider) ∧
    (probed.ok = false → ∃ error, probed.error = some error ∧ error ≠ "") := by
  intro probed recognized
  have ht : w.translator = .ok (speakerOf w.configuration.language) :=
    translator_of_offered hinstalled (hlanguage.imp_right .inl) hkept
  have hshipped := speakerOf_shipped w.configuration.language
  have hcomplete := complete_shipped hshipped
  have hvoices (c : Complaint) (hc : w.outcome.told reading = .error (.complaint c)) :
      w.Voices c :=
    voices_of_complete hcomplete ht (known_told hc).listed
  have hfailed (kind : FailureKind) :
      (finding w.outcome).kind? = some kind ↔ FailedAs recognized kind :=
    (kind_finding hnetwork kind).trans
      (failedAs_recognize_iff hbytes htimeout hvoices credential modelId mode kind).symm
  have hcomplained (c : Complaint) : w.outcome.told reading = .error (.complaint c) ↔
      Complained recognized c :=
    (and_iff_left_of_imp (hvoices c)).symm.trans
      (((callsFor_recognize hbytes credential modelId mode w).timed x htimeout).complained c).symm
  obtain ⟨hauth, hquota, hunreachable, hprovider⟩ := foretold (finding w.outcome)
  refine ⟨exec_probe_told htimeout hnetwork hshipped ht htoken, ?_, hauth.trans (hfailed _),
    hquota.trans (hfailed _), fun detail => (unreachable_iff hnetwork detail).trans (hcomplained _),
    hunreachable.trans (hfailed _), hprovider.trans (hfailed _), error_told hshipped w.outcome⟩
  -- all is well if no class at all is foretold
  rw [ok_told_iff, Option.eq_none_iff_forall_not_mem]
  exact forall_congr' fun kind => not_congr (hfailed kind)

/-- In English, and with an answer that is no JSON. -/
def garbled : World :=
  { answering with network := [.response ⟨503, Encoding.Utf8.encodeString "<html>"⟩] }

/-- The test tells of an error of the server, and the recognition fails by the provider. -/
theorem probe_predicts_garbled :
    (exec (probe (.str "t")) garbled).1 = .ok (failing "Server error (HTTP 503)") ∧
      FailedAs (exec (recognize (.str "t") "AAAA" "latex_ocr" none) garbled).1 .provider := by
  have htimeout : garbled.configuration.timeout =
      .ok (.finite false (120 * Binary64.unitsPerOne)) := eq_ok_of_toOption (by decide +kernel)
  have hlanguage : garbled.configuration.language = "en" := by decide +kernel
  have hbytes : decodeImage "AAAA" = .ok [0, 0, 0] := eq_ok_of_toOption (by decide +kernel)
  obtain ⟨hprobed, -, -, -, -, -, hprovider, -⟩ :=
    probe_predicts htimeout trivial installed_install (.inl hlanguage)
      (by simp [garbled, answering]) (by decide : "t" ≠ "") hbytes (.str "t") "latex_ocr" none
  have hverdict : verdict ⟨503, Encoding.Utf8.encodeString "<html>"⟩ = .serverError 503 := by
    decide +kernel
  have hsaid : inEnglish.say "probe.server_error" [("status", .int 503)] =
      "Server error (HTTP 503)" := by
    decide +kernel
  refine ⟨hprobed.trans ?_, hprovider.1 (.inl ⟨503, congrArg Finding.judged hverdict⟩)⟩
  rw [hlanguage, ← hsaid]
  exact congrArg (fun v => Except.ok (Verdict.told inEnglish v)) hverdict

/-- A test of a token in English or in Chinese comes to a result. -/
def Explains (w : World) : Prop :=
  w.configuration.language = "en" ∨ w.configuration.language = "zh" → Installed w.disk →
    w.translators = [] → SiliconFlow.FromNetwork w.outcome →
    ∀ token : String, token ≠ "" → ∃ probed, (exec (probe (.str token)) w).1 = .ok probed

/-- With a bad timeout, a test crashes. -/
theorem not_explains : ¬ Explains mistimed := by
  intro hclaim
  have hlanguage : mistimed.configuration.language = "en" := by decide +kernel
  obtain ⟨probed, hprobed⟩ :=
    hclaim (.inl hlanguage) installed_install rfl trivial "t" (by decide)
  have hnone : (exec (probe (.str "t")) mistimed).1.toOption = none := by decide +kernel
  rw [hprobed] at hnone
  exact nomatch hnone

end SimpleTex

end FormulaOcr
