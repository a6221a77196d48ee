import FormulaOcr.Proofs.Localization.Messages
import FormulaOcr.Proofs.Steps
import FormulaOcr.Recognition.Pipeline

/-! How a formula is recognised by SiliconFlow: one question for the transcription, and unless that
fails or says nothing, one more about the same picture for its check, which can fail in any way
without taking the transcription back. -/

namespace FormulaOcr

open FormulaOcr.Localization

namespace SiliconFlow

/-- What an outcome says to a question: a text, or what to complain of. -/
def heard : Outcome → Except Complaint String
  | .interrupted i => .error (.requestFailed i.detail)
  | .response r =>
    if r.isSuccess then
      match Response.jsonOfBytes r.body with
      | .ok payload => .ok (content payload)
      | .error f => .error (.badResponse f.message)
    else .error (refusal r)

/-- A response, or an interruption whose cause lies in the network. -/
def FromNetwork : Outcome → Prop
  | .interrupted i => i.isNetwork = true
  | .response _ => True

theorem reading_eq_heard (r : Response) :
    reading r = (heard (.response r)).mapError .complaint := by
  unfold reading payload heard Response.json
  dsimp only
  split_ifs
  · cases Response.jsonOfBytes r.body <;> rfl
  · rfl

/-- The messages that a question may need when it fails, with the names of their values. -/
def complaints : List (String × List String) :=
  [("errors.request_failed", ["detail"]), ("errors.bad_response", ["detail"]),
   ("errors.api_failed", ["status"]), ("errors.provider_message", ["message"])]

/-- A translator that can say why a question failed. -/
def Explains (t : Translator) : Prop :=
  ∀ key names, (key, names) ∈ complaints → t.Words key names

theorem explains_of_complete {t : Translator} (h : t.Complete) : Explains t := by
  have hsub : complaints ⊆ valued := by decide
  exact fun key names hmem => h key names (hsub hmem)

/-- A complaint that is among them if it mentions values. -/
def Explained (c : Complaint) : Prop :=
  c.values = [] ∨ (c.key, c.values.keys) ∈ complaints

theorem explained_refusal (r : Response) : Explained (refusal r) := by
  rcases refusal_cases r with h | ⟨kind, h | ⟨message, h⟩⟩
  · exact .inl (by rw [h]; rfl)
  · exact .inr (by simp [h, complaints, Complaint.callRefused, Dictionary.keys])
  · exact .inr (by simp [h, complaints, Complaint.callRefusedBecause, Dictionary.keys])

theorem explained_heard {o : Outcome} {c : Complaint} (h : heard o = .error c) : Explained c := by
  unfold heard at h
  split at h
  · obtain rfl := Except.error.inj h
    right
    simp [complaints, Complaint.requestFailed, Dictionary.keys]
  · next r =>
    split_ifs at h
    · split at h
      · simp at h
      · obtain rfl := Except.error.inj h
        right
        simp [complaints, Complaint.badResponse, Dictionary.keys]
    · obtain rfl := Except.error.inj h
      exact explained_refusal r

/-- The call that puts a question about a picture. -/
def question (c : Configuration) (timeout : Binary64) (key : Json)
    (imageUrl modelId prompt : String) : Call :=
  { verb := .post, url := Provider.siliconflow.url c "chat/completions", timeout
    headers := some (Dictionary.merge (Provider.siliconflow.authHeaders key)
      [("Content-Type", .str "application/json")])
    payload := .json (chatBody modelId imageUrl prompt) }

end SiliconFlow

/-- A world after a call that took an outcome and left others. -/
def World.called (w : World) (call : Call) (rest : List Outcome) : World :=
  { w with network := rest, calls := w.calls ++ [call] }

namespace Action

variable {w : World} {t : Translator}

theorem exec_timeout {x : Binary64} (h : w.configuration.timeout = .ok x) :
    exec timeout w = (.ok x, w) := by
  rw [timeout, exec_bind, exec_get]
  dsimp only
  rw [exec_ofCrash, h]
  rfl

theorem exec_timeout_error {e : Crash} (h : w.configuration.timeout = .error e) :
    exec timeout w = (.error (.crash e), w) := by
  rw [timeout, exec_bind, exec_get]
  dsimp only
  rw [exec_ofCrash, h]
  rfl

/-- A call that has a time to wait takes an outcome and is recorded. -/
theorem exec_send_timed {x : Binary64} (htimeout : w.configuration.timeout = .ok x)
    (p : Provider) (verb : Verb) (path : String) (credential : Json)
    (headers : List (String × Json)) (payload : Payload) (call : Call)
    (hcall : call = { verb, url := p.url w.configuration path, timeout := x
                      headers := some (Dictionary.merge (p.authHeaders credential) headers)
                      payload }) :
    exec (p.send verb path credential headers payload) w =
      match givenBack (taken w.network).1 with
      | .ok (.ok r) => (.ok r, w.called call (taken w.network).2)
      | .ok (.error i) =>
        exec (complain (.requestFailed i.detail)) (w.called call (taken w.network).2)
      | .error e => (.error e, w.called call (taken w.network).2) := by
  rw [Provider.send, exec_bind, exec_get]
  dsimp only
  rw [exec_bind_ok (exec_timeout htimeout), ← hcall, exec_bind, exec_exchange]
  cases givenBack (taken w.network).1 with
  | error e => rfl
  | ok result => cases result <;> rfl

/-- A call whose time to wait is no number is not made. -/
theorem exec_send_untimed {e : Crash} (htimeout : w.configuration.timeout = .error e)
    (p : Provider) (verb : Verb) (path : String) (credential : Json)
    (headers : List (String × Json)) (payload : Payload) :
    exec (p.send verb path credential headers payload) w = (.error (.crash e), w) := by
  rw [Provider.send, exec_bind, exec_get]
  dsimp only
  rw [exec_bind_error (exec_timeout_error htimeout)]

theorem exec_complain_explained {α : Type} (ht : w.translator = .ok t)
    (hexplains : SiliconFlow.Explains t) {c : Complaint} (hc : SiliconFlow.Explained c) :
    exec (complain c : Action α) w = (.error (.failure (worded t c)), w.spoken) := by
  rcases hc with hc | hc
  · exact exec_complain ht (by rw [hc]; rfl) (by rw [hc]; exact words_nil t c.key)
  · have hown : SiliconFlow.complaints.all
        (fun entry => (entry.2.find? ["self", "key"].contains).isNone) = true := by
      decide
    have := List.all_eq_true.1 hown _ hc
    rw [Option.isNone_iff_eq_none] at this
    exact exec_complain ht this (hexplains _ _ hc)

/-- A call to a provider gives the response, or the failure of an interruption. -/
theorem exec_send {o : Outcome} {rest : List Outcome} {x : Binary64} (h : w.network = o :: rest)
    (hnetwork : SiliconFlow.FromNetwork o) (htimeout : w.configuration.timeout = .ok x)
    (ht : w.translator = .ok t) (hexplains : SiliconFlow.Explains t) (p : Provider) (verb : Verb)
    (path : String) (credential : Json) (headers : List (String × Json)) (payload : Payload)
    (call : Call)
    (hcall : call = { verb, url := p.url w.configuration path, timeout := x
                      headers := some (Dictionary.merge (p.authHeaders credential) headers)
                      payload }) :
    exec (p.send verb path credential headers payload) w =
      match o with
      | .response r => (.ok r, w.called call rest)
      | .interrupted i =>
        (.error (.failure (worded t (.requestFailed i.detail))), (w.called call rest).spoken) := by
  have hsent := exec_send_timed htimeout p verb path credential headers payload call hcall
  rw [h] at hsent
  rw [hsent]
  cases o with
  | response r => rfl
  | interrupted i =>
    have hi : i.isNetwork = true := hnetwork
    have hcalled : (w.called call rest).translator = .ok t := ht
    dsimp only [taken, givenBack]
    rw [if_pos hi]
    exact exec_complain_explained hcalled hexplains
      (SiliconFlow.explained_heard (o := .interrupted i) rfl)

/-- A question is one call, and comes to what its outcome says. -/
theorem exec_ask {o : Outcome} {rest : List Outcome} {x : Binary64} (h : w.network = o :: rest)
    (hnetwork : SiliconFlow.FromNetwork o) (htimeout : w.configuration.timeout = .ok x)
    (ht : w.translator = .ok t) (hexplains : SiliconFlow.Explains t) (key : Json)
    (imageUrl modelId prompt : String) :
    exec (SiliconFlow.ask key imageUrl modelId prompt) w =
      match SiliconFlow.heard o with
      | .ok text =>
        (.ok text,
          w.called (SiliconFlow.question w.configuration x key imageUrl modelId prompt) rest)
      | .error c =>
        (.error (.failure (worded t c)),
          (w.called (SiliconFlow.question w.configuration x key imageUrl modelId prompt)
            rest).spoken) := by
  rw [SiliconFlow.ask, exec_bind, exec_send h hnetwork htimeout ht hexplains _ _ _ _ _ _
    (SiliconFlow.question w.configuration x key imageUrl modelId prompt) rfl]
  have hcalled : (w.called (SiliconFlow.question w.configuration x key imageUrl modelId prompt)
      rest).translator = .ok t := ht
  cases o with
  | interrupted i => rfl
  | response r =>
    dsimp only
    rw [SiliconFlow.reading_eq_heard]
    cases hheard : SiliconFlow.heard (.response r) with
    | ok text => rfl
    | error c =>
      exact exec_complain_explained hcalled hexplains (SiliconFlow.explained_heard hheard)

end Action

namespace Recognition

open FormulaOcr.Action SiliconFlow

/-- What stands in front of a transcription that is to be checked. -/
def checkInstruction : String :=
  "Check the following LaTeX formula against the image. If it is correct, return it unchanged; " ++
  "if it has errors, return the corrected formula. Return only the final raw LaTeX code, " ++
  "do not explain.\n\nRecognition result: "

theorem verificationPrompt_eq (formula : String) :
    verificationPrompt formula = checkInstruction ++ formula := rfl

/-- What a transcription and the outcome of its check make. -/
def checked (modelId primary : String) : Except Complaint String → Result
  | .error _ => { text := primary, model := modelId, verified := some false }
  | .ok secondary =>
    if secondary = "" then { text := primary, model := modelId, verified := some false }
    else if normalize primary = normalize secondary then
      { text := primary, model := modelId, verified := some true, corrected := some false }
    else
      { text := secondary, model := modelId, verified := some false, corrected := some true,
        original := some primary }

/-- What the recognition of a formula comes to with two outcomes, and what it asks on the way. -/
def protocol (t : Translator) (modelId : String) (first second : Outcome) :
    Except Fault Result × List String :=
  match heard first with
  | .error c => (.error (.failure (worded t c)), [prompt .formula])
  | .ok primary =>
    if primary = "" then
      (.ok { text := "", model := modelId, verified := some false }, [prompt .formula])
    else
      (.ok (checked modelId primary (heard second)), [prompt .formula, checkInstruction ++ primary])

variable {w : World} {t : Translator} {x : Binary64}

/-- A check never fails, and is one more question. -/
theorem exec_verify {o : Outcome} {rest : List Outcome} (h : w.network = o :: rest)
    (hnetwork : FromNetwork o) (htimeout : w.configuration.timeout = .ok x)
    (ht : w.translator = .ok t) (hexplains : SiliconFlow.Explains t)
    (key imageUrl modelId primary : String) :
    (exec (verify key imageUrl modelId primary) w).1 = .ok (checked modelId primary (heard o)) ∧
      (exec (verify key imageUrl modelId primary) w).2.calls = w.calls ++
        [question w.configuration x (.str key) imageUrl modelId (checkInstruction ++ primary)] := by
  have hask := exec_ask h hnetwork htimeout ht hexplains (.str key) imageUrl modelId
    (checkInstruction ++ primary)
  rw [verify, verificationPrompt_eq, exec_bind, exec_attempt, hask]
  cases heard o with
  | ok secondary =>
    refine ⟨?_, rfl⟩
    dsimp only [exec_pure, checked, reconcile]
  | error c =>
    obtain ⟨kept, hspoken⟩ := World.spoken_eq (w.called
      (question w.configuration x (.str key) imageUrl modelId (checkInstruction ++ primary)) rest)
    dsimp only
    rw [hspoken]
    exact ⟨rfl, rfl⟩

theorem select_siliconflow (modelId : String) (mode : Mode) (hasToken : Bool) :
    select ("siliconflow:" ++ modelId) mode hasToken = .ok (.explicit .siliconflow modelId) := by
  have hsplit : Text.splitFirst ':' ("siliconflow:" ++ modelId).toList =
      some ("siliconflow".toList, modelId.toList) := by
    rw [String.toList_append]
    rfl
  rw [select, hsplit]
  have hname : Provider.ofName? (.ofList "siliconflow".toList) = some .siliconflow := by
    decide
  dsimp only
  rw [hname, String.ofList_toList]

/-- The recognition of a formula by SiliconFlow. A failed first question is the failure of the
recognition, an answer that says nothing is its result; a transcription is checked by one more
question to the same model about the same picture, and whatever becomes of that, the recognition
has a result. -/
theorem recognize_formula {key modelId : String} {first second : Outcome} {rest : List Outcome}
    (hkey : key ≠ "") (hmodel : modelId ≠ "") (hnetwork : w.network = first :: second :: rest)
    (hfirst : FromNetwork first) (hsecond : FromNetwork second)
    (htimeout : w.configuration.timeout = .ok x) (ht : w.translator = .ok t)
    (hexplains : SiliconFlow.Explains t) (image token : String) :
    let run := exec (recognize { image, mode := .formula, selector := "siliconflow:" ++ modelId }
      { token, key }) w
    run.1 = (protocol t modelId first second).1 ∧
      run.2.calls = w.calls ++ (protocol t modelId first second).2.map
        (question w.configuration x (.str key) (imageUrl image) modelId) := by
  intro run
  have hask := exec_ask hnetwork hfirst htimeout ht hexplains (.str key) (imageUrl image) modelId
    (prompt .formula)
  have hrun : run = exec (withSiliconFlow key image .formula modelId) w := by
    simp only [run, recognize, select_siliconflow, ofComplaint, pure_bind, Selection.modelId,
      hmodel, if_false, Selection.provider]
  rw [hrun, withSiliconFlow, if_neg hkey]
  dsimp only
  rw [exec_bind, hask, protocol]
  cases hheard : heard first with
  | error c =>
    obtain ⟨kept, hspoken⟩ := World.spoken_eq (w.called
      (question w.configuration x (.str key) (imageUrl image) modelId (prompt .formula))
      (second :: rest))
    dsimp only
    rw [hspoken]
    exact ⟨rfl, rfl⟩
  | ok primary =>
    dsimp only
    by_cases hempty : primary = ""
    · rw [if_pos hempty, if_pos hempty]
      exact ⟨rfl, rfl⟩
    · have hverify := exec_verify (w := w.called (question w.configuration x (.str key)
        (imageUrl image) modelId (prompt .formula)) (second :: rest)) rfl hsecond htimeout ht
        hexplains key (imageUrl image) modelId primary
      rw [if_neg hempty, if_neg hempty, if_pos rfl]
      refine ⟨hverify.1, hverify.2.trans ?_⟩
      simp only [World.called, List.map_cons, List.map_nil, List.append_assoc,
        List.singleton_append]

/-- An answer that is a formula. -/
def answerOf (formula : String) : Outcome :=
  .response ⟨200, Encoding.Utf8.encodeString
    ("\x7b\"choices\": [\x7b\"message\": \x7b\"content\": \"" ++ formula ++ "\"\x7d\x7d]\x7d")⟩

/-- A service in English, with a transcription and another one for its check at hand. -/
def answering : World :=
  { configuration := ⟨[("FORMULASNAP_LANG", .str "en")], []⟩, disk := install ⟨[]⟩
    today := "2026-03-01", network := [answerOf "x^2 ", answerOf "x_2"], browser := true
    calls := [], opened := [], store := none, counterPath := none, translators := [] }

theorem translator_answering : answering.translator = .ok inEnglish := by
  have hlanguage : answering.configuration.language = "en" := by decide +kernel
  rw [World.translator, hlanguage]
  exact load_english installed_install

theorem recognize_formula_corrected :
    (exec (recognize { image := "AAAA", mode := .formula, selector := "siliconflow:Qwen/Qwen-VL" }
      { token := "", key := "sk" }) answering).1 =
        .ok { text := "x_2", model := "Qwen/Qwen-VL", verified := some false,
              corrected := some true, original := some "x^2" } := by
  have htimeout : answering.configuration.timeout =
      .ok (.finite false (120 * Binary64.unitsPerOne)) :=
    eq_ok_of_toOption (by decide +kernel)
  have hfirst : heard (answerOf "x^2 ") = .ok "x^2" := eq_ok_of_toOption (by decide +kernel)
  have hsecond : heard (answerOf "x_2") = .ok "x_2" := eq_ok_of_toOption (by decide +kernel)
  have hrun := recognize_formula (w := answering) (by decide : "sk" ≠ "")
    (by decide : "Qwen/Qwen-VL" ≠ "") rfl trivial trivial htimeout translator_answering
    (explains_of_complete complete_inEnglish) "AAAA" ""
  refine hrun.1.trans ?_
  rw [protocol, hfirst]
  dsimp only
  rw [if_neg (by decide), hsecond, checked, if_neg (by decide), if_neg (by decide +kernel)]

/-- A transcription stands whatever becomes of its check. -/
def Stands (w : World) : Prop :=
  ∀ (key modelId image token primary : String) (first second : Outcome) (rest : List Outcome),
    key ≠ "" → modelId ≠ "" → w.network = first :: second :: rest → FromNetwork first →
    FromNetwork second → heard first = .ok primary → primary ≠ "" →
    ∃ result, (exec (recognize { image, mode := .formula, selector := "siliconflow:" ++ modelId }
      { token, key }) w).1 = .ok result

/-- A service with a table of its own, in which a message cannot be filled in, and a check that
finds no server. -/
def misworded : World :=
  { answering with
    configuration := ⟨[("FORMULASNAP_LANG", .str "/data/label")], []⟩
    disk := ((install ⟨[]⟩).put ["data"] .directory).put ["data", "label.json"]
      (.file (Encoding.Utf8.encodeString "\x7b\"errors.request_failed\": \"\x7b\"\x7d"))
    network := [answerOf "x", .interrupted ⟨"ConnectError", "down"⟩] }

/-- A service that is told to wait for no number of seconds. -/
def mistimed : World :=
  { answering with
    configuration := ⟨[("FORMULASNAP_LANG", .str "en"), ("HTTP_TIMEOUT", .str "soon")], []⟩ }

/-- A transcription can be lost to a message that cannot be filled in, and to a bad timeout. -/
theorem not_stands :
    (¬ ∀ w x, w.configuration.timeout = .ok x → Stands w) ∧
      ¬ ∀ w t, w.translator = .ok t → Explains t → Stands w := by
  constructor
  · intro hclaim
    have htimeout : misworded.configuration.timeout =
        .ok (.finite false (120 * Binary64.unitsPerOne)) := eq_ok_of_toOption (by decide +kernel)
    obtain ⟨result, hresult⟩ := hclaim _ _ htimeout "k" "m" "AAAA" "" "x" _ _ _ (by decide)
      (by decide) rfl trivial rfl (eq_ok_of_toOption (by decide +kernel)) (by decide)
    have hnone : (exec (recognize
        { image := "AAAA", mode := .formula, selector := "siliconflow:" ++ "m" }
        { token := "", key := "k" }) misworded).1.toOption = none := by decide +kernel
    rw [hresult] at hnone
    exact nomatch hnone
  · intro hclaim
    have ht : mistimed.translator = .ok inEnglish := by
      have hlanguage : mistimed.configuration.language = "en" := by decide +kernel
      rw [World.translator, hlanguage]
      exact load_english installed_install
    obtain ⟨result, hresult⟩ := hclaim _ _ ht (explains_of_complete complete_inEnglish) "k" "m"
      "AAAA" "" "x^2" _ _ _ (by decide) (by decide) rfl trivial trivial
      (eq_ok_of_toOption (by decide +kernel)) (by decide)
    have hnone : (exec (recognize
        { image := "AAAA", mode := .formula, selector := "siliconflow:" ++ "m" }
        { token := "", key := "k" }) mistimed).1.toOption = none := by decide +kernel
    rw [hresult] at hnone
    exact nomatch hnone

end Recognition

end FormulaOcr
