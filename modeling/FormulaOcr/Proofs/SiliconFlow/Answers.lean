import FormulaOcr.Proofs.Localization.Speech
import FormulaOcr.Proofs.Recognition.Endings
import FormulaOcr.Proofs.Text.Search
import FormulaOcr.Proofs.Text.Trimming

/-! Answers of SiliconFlow. A response is the text of its first choice, or a refusal, and a refusal
is told in the words of the provider, whatever they are, if it has any. -/

namespace FormulaOcr

open FormulaOcr.Action FormulaOcr.Localization FormulaOcr.Recognition

namespace SiliconFlow

/-- The text of the first choice in an answer, as it stands there. -/
def saidIn? (payload : Json) : Option String :=
  match payload.member "choices" with
  | .arr (choice :: _) => (choice.follow ["message", "content"]).text?
  | _ => none

/-- The message in a response; none if its body is no JSON. -/
def messageIn? (r : Response) : Option String :=
  r.json?.bind (·.firstText? messagePaths)

/-- A message says that the picture is too small: in lower case, it has certain words in it. -/
def TooSmall (message : String) : Prop :=
  ∀ words ∈ ["height", "width", "must be larger"],
    words.toList <:+: Text.lowercase message.toList

/-- The class of a refusal that is not about the size of the picture. -/
def refusedAs (r : Response) : FailureKind :=
  if r.status = 401 then .auth else .provider

theorem content_eq (payload : Json) :
    content payload = ((saidIn? payload).map Text.trimmed).getD "" := by
  unfold content saidIn?
  cases payload.member "choices" with
  | arr choices =>
    cases choices with
    | nil => rfl
    | cons choice rest =>
      dsimp only
      cases choice.follow ["message", "content"] <;> rfl
  | _ => rfl

theorem trimmed_content (payload : Json) : Text.Trimmed (content payload) := by
  rw [content_eq]
  cases saidIn? payload with
  | none => exact Text.trimmed_empty
  | some text => exact Text.trimmed_trimmed text

theorem saysTooSmall_iff (message : String) : saysTooSmall message = true ↔ TooSmall message := by
  simp [saysTooSmall, TooSmall, tooSmallWords, Text.occurs_iff]

/-- What is wrong with a response outside the range of success, by the message in it. -/
theorem refusal_eq (r : Response) :
    ((messageIn? r).getD "" = "" → refusal r = .callRefused (refusedAs r) r.status) ∧
    ∀ message, messageIn? r = some message → message ≠ "" →
      (TooSmall message → refusal r = .imageTooSmall) ∧
      (¬ TooSmall message → refusal r = .callRefusedBecause (refusedAs r) message) := by
  have hmessage : (r.json?.getD .null).firstText? messagePaths = messageIn? r := by
    unfold messageIn?
    cases r.json? <;> rfl
  unfold refusal
  dsimp only
  rw [hmessage]
  constructor
  · intro hnone
    cases hfound : messageIn? r with
    | none => rfl
    | some message =>
      rw [hfound, Option.getD_some] at hnone
      exact if_pos hnone
  · intro message hfound hne
    rw [hfound]
    dsimp only
    rw [if_neg hne]
    refine ⟨fun hsmall => ?_, fun hlarge => ?_⟩
    · rw [if_pos ((saysTooSmall_iff message).2 hsmall)]
    · rw [if_neg ((saysTooSmall_iff message).not.2 hlarge)]
      rfl

theorem heard_refused {r : Response} (h : r.isSuccess = false) :
    heard (.response r) = .error (refusal r) := by
  rw [heard, h]
  rfl

theorem heard_unreadable {r : Response} (h : r.isSuccess = true) {f : Response.BodyFault}
    (hbody : Response.jsonOfBytes r.body = .error f) :
    heard (.response r) = .error (.badResponse f.message) := by
  rw [heard, if_pos h, hbody]

theorem heard_ok_iff {o : Outcome} {text : String} :
    heard o = .ok text ↔ ∃ r payload, o = .response r ∧ r.isSuccess = true ∧
      Response.jsonOfBytes r.body = .ok payload ∧ text = content payload := by
  constructor
  · intro h
    cases o with
    | interrupted i => exact nomatch h
    | response r =>
      cases hsuccess : r.isSuccess with
      | false => exact nomatch (heard_refused hsuccess).symm.trans h
      | true =>
        cases hbody : Response.jsonOfBytes r.body with
        | error f => exact nomatch (heard_unreadable hsuccess hbody).symm.trans h
        | ok payload =>
          rw [heard, if_pos hsuccess, hbody] at h
          exact ⟨r, payload, rfl, hsuccess, hbody, (Except.ok.inj h).symm⟩
  · intro h
    obtain ⟨r, payload, rfl, hsuccess, hbody, rfl⟩ := h
    rw [heard, if_pos hsuccess, hbody]

theorem told_eq_heard {o : Outcome} (hnetwork : FromNetwork o) :
    o.told reading = (heard o).mapError .complaint := by
  cases o with
  | response r => exact reading_eq_heard r
  | interrupted i =>
    have hi : i.isNetwork = true := hnetwork
    rw [Outcome.told, if_pos hi]
    rfl

/-! What a question comes to. -/

/-- A refusal ends a question with its failure: by the size of the picture, in the words of the
provider, or by the status alone. -/
structure Refused {α : Type} (r : Response) (ended : Except Fault α) : Prop where
  unexplained : (messageIn? r).getD "" = "" →
    Complained ended (.callRefused (refusedAs r) r.status)
  tooSmall : ∀ message, messageIn? r = some message → message ≠ "" → TooSmall message →
    Complained ended .imageTooSmall
  explained : ∀ message, messageIn? r = some message → message ≠ "" → ¬ TooSmall message →
    Complained ended (.callRefusedBecause (refusedAs r) message)

/-- What a question comes to with an outcome of a network. -/
structure Answered (o : Outcome) (ended : Except Fault String) : Prop where
  text : ∀ text, ended = .ok text ↔ ∃ r payload, o = .response r ∧ r.isSuccess = true ∧
    Response.jsonOfBytes r.body = .ok payload ∧
    text = ((saidIn? payload).map Text.trimmed).getD ""
  trimmed : ∀ text, ended = .ok text → Text.Trimmed text
  interrupted : ∀ i, o = .interrupted i → Complained ended (.requestFailed i.detail)
  unreadable : ∀ r f, o = .response r → r.isSuccess = true →
    Response.jsonOfBytes r.body = .error f → Complained ended (.badResponse f.message)
  refused : ∀ r, o = .response r → r.isSuccess = false → Refused r ended
  calm : ∀ e, ended ≠ .error (.crash e)

/-- A refusal in the words of a shipped table names the status, or has the words of the provider and
no others. -/
structure Spoken (f : Failure) : Prop where
  status : ∀ kind status, f.complaint = .callRefused kind status →
    (Json.int status).display.toList <:+: f.message.toList
  verbatim : ∀ kind message, f.complaint = .callRefusedBecause kind message → f.message = message

variable {w : World} {t : Translator}

theorem spoken_worded (ht : t ∈ shipped) (c : Complaint) : Spoken (worded t c) where
  status kind status hc := by
    obtain rfl : c = .callRefused kind status := hc
    have hmentions : ∀ t ∈ shipped, (t.template "errors.api_failed").any (Piece.isFor "status") =
        true := by
      decide +kernel
    have hplain : hasPlain t "errors.api_failed" (Dictionary.keys [("status", Json.int status)]) =
        true :=
      plain_shipped ht (valued_one (by decide) _)
    exact infix_say hplain rfl (hmentions t ht)
  verbatim kind message hc := by
    obtain rfl : c = .callRefusedBecause kind message := hc
    exact say_provider_message ht (.str message)

/-- What is heard from a network is what a question comes to, if there are words for it. -/
theorem answered_of_comesTo {ended : Except Fault String} (hnetwork : FromNetwork w.outcome)
    (hcomes : ComesTo ended (w.outcome.told reading) w)
    (hvoices : ∀ c, heard w.outcome = .error c → w.Voices c) : Answered w.outcome ended := by
  rw [told_eq_heard hnetwork] at hcomes
  have hcomplained {c : Complaint} (hc : heard w.outcome = .error c) : Complained ended c :=
    (hcomes.complained c).2 ⟨by rw [hc]; rfl, hvoices c hc⟩
  have hresult (text : String) : ended = .ok text ↔ heard w.outcome = .ok text := by
    rw [hcomes.result]
    cases heard w.outcome <;> simp [Except.mapError]
  constructor
  case text =>
    intro text
    rw [hresult, heard_ok_iff]
    simp only [content_eq]
  case trimmed =>
    intro text hended
    obtain ⟨r, payload, -, -, -, rfl⟩ := heard_ok_iff.1 ((hresult text).1 hended)
    exact trimmed_content payload
  case interrupted =>
    intro i houtcome
    exact hcomplained (by rw [houtcome]; rfl)
  case unreadable =>
    intro r f houtcome hsuccess hbody
    exact hcomplained (by rw [houtcome, heard_unreadable hsuccess hbody])
  case refused =>
    intro r houtcome hfailure
    have hrefused : heard w.outcome = .error (refusal r) := by
      rw [houtcome, heard_refused hfailure]
    obtain ⟨hunexplained, hexplained⟩ := refusal_eq r
    refine ⟨fun hnone => ?_, fun message hmessage hne hsmall => ?_,
      fun message hmessage hne hlarge => ?_⟩
    · exact hcomplained (hrefused.trans (congrArg _ (hunexplained hnone)))
    · exact hcomplained (hrefused.trans (congrArg _ ((hexplained message hmessage hne).1 hsmall)))
    · exact hcomplained (hrefused.trans (congrArg _ ((hexplained message hmessage hne).2 hlarge)))
  case calm =>
    intro e hcrash
    cases hheard : heard w.outcome with
    | ok text => exact nomatch hcrash.symm.trans ((hresult text).2 hheard)
    | error c =>
      obtain ⟨message, hended⟩ := hcomplained hheard
      exact nomatch hcrash.symm.trans hended

/-- A question that has a time to wait comes to what its answer says, if there are words for it:
to the trimmed text of the first choice, to an interruption of the network, or to a refusal, and
never to a crash. A shipped table has words for all of it, and those of the provider are passed on
as they are. Without a time to wait, the question crashes before the call. -/
theorem ask_answered (key : Json) (imageUrl modelId prompt : String) (w : World) :
    let run := exec (ask key imageUrl modelId prompt) w
    (∀ x, w.configuration.timeout = .ok x → FromNetwork w.outcome →
      (∀ c, heard w.outcome = .error c → w.Voices c) → Answered w.outcome run.1) ∧
    (∀ t ∈ shipped, w.translator = .ok t →
      (∀ c, heard w.outcome = .error c → w.Voices c) ∧
      ∀ f, run.1 = .error (.failure f) → Spoken f) ∧
    (∀ e, w.configuration.timeout = .error e → run = (.error (.crash e), w)) := by
  intro run
  have hcalls := callsFor_send reading .siliconflow .post "chat/completions" key
    [("Content-Type", .str "application/json")] (.json (chatBody modelId imageUrl prompt)) w
  refine ⟨fun x htimeout hnetwork hvoices => ?_, fun t hshipped ht => ⟨fun c hc => ?_, ?_⟩,
    hcalls.untimed⟩
  · exact answered_of_comesTo hnetwork (hcalls.timed x htimeout) hvoices
  · have hsub : complaints ⊆ valued := by decide
    exact voices_of_complete (complete_shipped hshipped) ht
      ((explained_heard hc).imp_right fun hmem => hsub hmem)
  · intro f hfailed
    cases htimeout : w.configuration.timeout with
    | error e =>
      have hrun : run = _ := hcalls.untimed e htimeout
      rw [hrun] at hfailed
      exact nomatch hfailed
    | ok x =>
      -- the words are those of the one translator that the process has
      obtain ⟨t', ht', hf⟩ := (hcalls.timed x htimeout).worded f hfailed
      obtain rfl : t = t' := Except.ok.inj (ht.symm.trans ht')
      rw [hf]
      exact spoken_worded hshipped f.complaint

/-- The service in English, and a refusal with a message that looks like a template. -/
def braced : World :=
  { answering with
    network := [.response ⟨400, Encoding.Utf8.encodeString
      "\x7b\"error\": \x7b\"message\": \"no \x7bmodel!r\x7d \x7b\"\x7d\x7d"⟩] }

theorem ask_answered_braced :
    (exec (ask (.str "k") "data:,x" "m" "Read.") braced).1 =
      .error (.failure ⟨.callRefusedBecause .provider "no \x7bmodel!r\x7d \x7b",
        "no \x7bmodel!r\x7d \x7b"⟩) := by
  have htimeout : braced.configuration.timeout =
      .ok (.finite false (120 * Binary64.unitsPerOne)) := eq_ok_of_toOption (by decide +kernel)
  have ht : braced.translator = .ok inEnglish :=
    (answering.translator_network _).trans translator_answering
  obtain ⟨hanswered, hspoken, -⟩ := ask_answered (.str "k") "data:,x" "m" "Read." braced
  obtain ⟨hvoices, hspoken⟩ := hspoken inEnglish (by simp [shipped]) ht
  have hrefused := (hanswered _ htimeout trivial hvoices).refused _ rfl rfl
  have hlarge : ¬ TooSmall "no \x7bmodel!r\x7d \x7b" := by
    rw [← saysTooSmall_iff]
    decide +kernel
  obtain ⟨message, hended⟩ :=
    hrefused.explained "no \x7bmodel!r\x7d \x7b" (by decide +kernel) (by decide) hlarge
  rw [hended]
  obtain rfl := (hspoken _ hended).verbatim _ _ rfl
  rfl

/-- A question comes to what its answer says. -/
def Answers (w : World) : Prop :=
  FromNetwork w.outcome → ∀ (key : Json) (imageUrl modelId prompt : String),
    Answered w.outcome (exec (ask key imageUrl modelId prompt) w).1

/-- A bad timeout and a message that cannot be filled in come instead of the answer. -/
theorem not_answers : ¬ Answers mistimed ∧ ¬ Answers unreachable := by
  constructor
  · intro hclaim
    have hanswered := hclaim trivial (.str "k") "data:,x" "m" "Read."
    have hcrashed : crashed (exec (ask (.str "k") "data:,x" "m" "Read.") mistimed).1 = true := by
      decide +kernel
    obtain ⟨e, hcrash⟩ := exists_crash hcrashed
    exact hanswered.calm e hcrash
  · intro hclaim
    have hnetwork : Interruption.isNetwork ⟨"ConnectError", "down"⟩ = true := by decide
    have hanswered := hclaim hnetwork (.str "k") "data:,x" "m" "Read."
    have hcrashed : crashed (exec (ask (.str "k") "data:,x" "m" "Read.") unreachable).1 = true := by
      decide +kernel
    obtain ⟨e, hcrash⟩ := exists_crash hcrashed
    exact hanswered.calm e hcrash

end SiliconFlow

end FormulaOcr
