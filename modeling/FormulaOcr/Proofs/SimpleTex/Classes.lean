import FormulaOcr.Proofs.Recognition.Endings

/-! The classes of failures of SimpleTex. A response is accepted or it is not, and if it is not, its
status and the code in its body tell of what class the failure is, whether the status is one of
success or not. -/

namespace FormulaOcr

open FormulaOcr.Action FormulaOcr.Localization FormulaOcr.Recognition

namespace SimpleTex

/-- The error code in a response; none if its body is no JSON. -/
def codeIn? (r : Response) : Option String :=
  r.json?.bind errorCode?

/-- A response is accepted if its status is one of success and its body is an object whose status
is true. -/
def Accepted (r : Response) : Prop :=
  r.isSuccess = true ∧ ∃ members, Response.jsonOfBytes r.body = .ok (.obj members) ∧
    (Json.obj members).member "status" = .bool true

/-- An answer that says that the picture was recognised, and with what result. -/
def Recognises (r : Response) (result : Json) : Prop :=
  r.isSuccess = true ∧ ∃ members, Response.jsonOfBytes r.body = .ok (.obj members) ∧
    (Json.obj members).member "status" = .bool true ∧
    result = ((Json.obj members).member "res").orElse (.obj [])

/-- The outcomes at which a failure is of a class. -/
def Classed : Outcome → FailureKind → Prop
  | .response r, .auth => r.status = 401 ∨ ¬ Accepted r ∧ codeIn? r = some unauthorized
  | .response r, .quotaExhausted =>
    r.status ≠ 401 ∧ ¬ Accepted r ∧ codeIn? r = some noValidResource
  | .response r, .provider =>
    ¬ Accepted r ∧ r.status ≠ 401 ∧ codeIn? r ≠ some unauthorized ∧
      codeIn? r ≠ some noValidResource
  | .interrupted i, .network => i.isNetwork = true
  | _, _ => False

/-- The class that a code tells of. -/
def kindFor (code : Option String) : FailureKind :=
  if code = some unauthorized then .auth
  else if code = some noValidResource then .quotaExhausted
  else .provider

/-- The class that the status and the code of a response tell of. -/
def kindOf (r : Response) : FailureKind :=
  if r.status = 401 then .auth else kindFor (codeIn? r)

variable {r : Response}

theorem status_of_success (h : r.isSuccess = true) : r.status ≠ 401 := by
  intro hstatus
  rw [Response.isSuccess, hstatus] at h
  exact nomatch h

/-- A failure of a response is of the class that the response tells of, unless it is accepted. -/
theorem classed_response_iff (kind : FailureKind) :
    Classed (.response r) kind ↔ ¬ Accepted r ∧ kindOf r = kind := by
  have hstatus : r.status = 401 → ¬ Accepted r := fun hstatus h => status_of_success h.1 hstatus
  have hcodes : unauthorized ≠ noValidResource := by decide
  unfold kindOf kindFor
  cases kind <;> simp only [Classed] <;> split_ifs <;> simp_all

theorem isTrue_iff {j : Json} : j.isTrue = true ↔ j = .bool true := by
  cases j <;> simp [Json.isTrue]

theorem accepted_iff :
    Accepted r ↔ r.isSuccess = true ∧ ((r.json?.getD .null).member "status").isTrue = true := by
  unfold Accepted Response.json?
  refine and_congr_right fun _ => ?_
  cases hbody : Response.jsonOfBytes r.body with
  | error f => simp [Except.toOption, Json.member, Json.member?, Json.isTrue]
  | ok payload =>
    cases payload with
    | obj members => simp [Except.toOption, isTrue_iff]
    | _ => simp [Except.toOption, Json.member, Json.member?, Json.isTrue]

instance (r : Response) : Decidable (Accepted r) :=
  decidable_of_iff _ accepted_iff.symm

theorem accepted_iff_recognises : Accepted r ↔ ∃ result, Recognises r result := by
  constructor
  · intro h
    obtain ⟨hsuccess, members, hbody, hstatus⟩ := h
    exact ⟨_, hsuccess, members, hbody, hstatus, rfl⟩
  · intro h
    obtain ⟨result, hsuccess, members, hbody, hstatus, -⟩ := h
    exact ⟨hsuccess, members, hbody, hstatus⟩

theorem kind_complaintFor (code : String) : (complaintFor code).kind = kindFor (some code) := by
  unfold complaintFor kindFor
  simp only [Option.some.injEq]
  split_ifs <;> rfl

/-- A code that is empty or absent tells of no class of its own. -/
theorem kind_complaintFor_or_unknown (code : Option String) :
    (complaintFor (if code.getD "" = "" then "unknown" else code.getD "")).kind =
      kindFor code := by
  rw [kind_complaintFor]
  cases code with
  | none => decide
  | some text =>
    rw [Option.getD_some]
    split_ifs with hempty
    · rw [hempty]
      decide
    · rfl

theorem kind_refusal (r : Response) : (refusal r).kind = kindOf r := by
  unfold refusal kindOf codeIn?
  split_ifs with hstatus
  · exact kind_complaintFor unauthorized
  · cases hcode : r.json?.bind errorCode? with
    | none => rfl
    | some code =>
      dsimp only
      split_ifs with hknown
      · exact kind_complaintFor code
      · obtain ⟨hne, hne'⟩ : code ≠ unauthorized ∧ code ≠ noValidResource := by
          simpa using hknown
        simp [kindFor, hne, hne', Complaint.uploadRefused]

/-- A response that is not accepted is complained of, in the class that it tells of. -/
theorem reading_rejected (h : ¬ Accepted r) :
    ∃ c, reading r = .error (.complaint c) ∧ c.kind = kindOf r := by
  unfold reading Response.json
  -- the code is looked up once in answers with a status of success and once in refusals, and both
  -- have to come to the same class
  by_cases hsuccess : r.isSuccess = true
  · have hkind : kindOf r = kindFor (codeIn? r) := if_neg (status_of_success hsuccess)
    rw [hkind, codeIn?, Response.json?, hsuccess]
    cases hbody : Response.jsonOfBytes r.body with
    | error f => exact ⟨.badResponse f.message, rfl, rfl⟩
    | ok payload =>
      cases payload with
      | obj members =>
        have hstatus : ((Json.obj members).member "status").isTrue = false := by
          rw [← Bool.not_eq_true, isTrue_iff]
          exact fun hstatus => h ⟨hsuccess, members, hbody, hstatus⟩
        simp only [Except.mapError, bind, Except.bind, hstatus]
        exact ⟨_, rfl, kind_complaintFor_or_unknown _⟩
      | _ => exact ⟨.badResponse _, rfl, rfl⟩
  · rw [Bool.not_eq_true] at hsuccess
    rw [hsuccess]
    exact ⟨refusal r, rfl, kind_refusal r⟩

theorem reading_recognises {r : Response} {result : Json} (h : Recognises r result) :
    reading r = (confidence result).map fun confidence => (resultText result, confidence) := by
  obtain ⟨hsuccess, members, hbody, hstatus, rfl⟩ := h
  unfold reading Response.json
  rw [hsuccess, hbody]
  simp only [Except.mapError, bind, Except.bind, hstatus, Json.isTrue]
  cases confidence (((Json.obj members).member "res").orElse (.obj [])) <;> rfl

/-- A response that is accepted is not complained of. -/
theorem reading_accepted (h : Accepted r) (c : Complaint) :
    reading r ≠ .error (.complaint c) := by
  obtain ⟨result, hresult⟩ := accepted_iff_recognises.1 h
  intro hreading
  rw [reading_recognises hresult] at hreading
  -- the confidence may be no number, but that is a crash
  cases hconfidence : confidence result with
  | ok x =>
    rw [hconfidence] at hreading
    exact nomatch hreading
  | error p =>
    rw [hconfidence] at hreading
    obtain rfl : p = .complaint c := Except.error.inj hreading
    exact nomatch confidence_error hconfidence

/-- An outcome is complained of in the class that it has, and not at all if it has none. -/
theorem classed_iff_told (o : Outcome) (kind : FailureKind) :
    Classed o kind ↔ ∃ c, o.told reading = .error (.complaint c) ∧ c.kind = kind := by
  cases o with
  | response r =>
    rw [classed_response_iff, Outcome.told]
    constructor
    · intro h
      obtain ⟨c, hreading, hkind⟩ := reading_rejected h.1
      exact ⟨c, hreading, hkind.trans h.2⟩
    · intro h
      obtain ⟨c, hreading, hkind⟩ := h
      have hrejected : ¬ Accepted r := fun haccepted => reading_accepted haccepted c hreading
      obtain ⟨d, hsame, hkindOf⟩ := reading_rejected hrejected
      obtain rfl : c = d :=
        Problem.complaint.inj (Except.error.inj (hreading.symm.trans hsame))
      exact ⟨hrejected, hkindOf.symm.trans hkind⟩
  | interrupted i =>
    dsimp only [Outcome.told]
    split_ifs with hnetwork
    · cases kind <;> simp [Classed, hnetwork, Complaint.requestFailed]
    · cases kind <;> simp [Classed, hnetwork]

theorem known_told {o : Outcome} {c : Complaint}
    (h : o.told reading = .error (.complaint c)) : c.Known := by
  cases o with
  | response r => exact known_reading h
  | interrupted i =>
    dsimp only [Outcome.told] at h
    split_ifs at h
    · obtain rfl := Problem.complaint.inj (Except.error.inj h)
      exact Complaint.known_one (by decide)
    · exact nomatch h

variable {image : String} {bytes : Bytes} {w : World}

/-- The recognition of a picture that can be sent is a question. -/
theorem callsFor_recognize (hbytes : decodeImage image = .ok bytes) (token : Json)
    (modelId : String) (mode : Option String) (w : World) :
    CallsFor (recognize token image modelId mode) (w.outcome.told reading) w := by
  unfold recognize upload
  rw [hbytes, ofComplaint, pure_bind]
  exact callsFor_send reading _ _ _ _ _ _ w

/-- A recognition that has a time to wait fails in the class of the outcome of its call, if there
are words for the complaint. -/
theorem failedAs_recognize_iff (hbytes : decodeImage image = .ok bytes) {x : Binary64}
    (htimeout : w.configuration.timeout = .ok x)
    (hvoices : ∀ c, w.outcome.told reading = .error (.complaint c) → w.Voices c) (token : Json)
    (modelId : String) (mode : Option String) (kind : FailureKind) :
    FailedAs (exec (recognize token image modelId mode) w).1 kind ↔ Classed w.outcome kind := by
  have hcalls := callsFor_recognize hbytes token modelId mode w
  rw [(hcalls.timed x htimeout).failedAs_iff, classed_iff_told]
  constructor
  · intro h
    obtain ⟨c, htold, hkind, -⟩ := h
    exact ⟨c, htold, hkind⟩
  · intro h
    obtain ⟨c, htold, hkind⟩ := h
    exact ⟨c, htold, hkind, hvoices c htold⟩

/-- A recognition fails in the class of the outcome of its call, if there is a time to wait and
there are words for the complaint. Whatever is the case, it fails in no other class, and not at all
if the response is accepted; without a time to wait, it crashes before the call. -/
theorem recognize_classes (hbytes : decodeImage image = .ok bytes) (token : Json)
    (modelId : String) (mode : Option String) (w : World) :
    let run := exec (recognize token image modelId mode) w
    (∀ x, w.configuration.timeout = .ok x →
      (∀ c, w.outcome.told reading = .error (.complaint c) → w.Voices c) →
        ∀ kind, FailedAs run.1 kind ↔ Classed w.outcome kind) ∧
    (∀ kind, FailedAs run.1 kind → Classed w.outcome kind) ∧
    (∀ r, w.outcome = .response r → Accepted r → ∀ kind, ¬ FailedAs run.1 kind) ∧
    (∀ e, w.configuration.timeout = .error e → run = (.error (.crash e), w)) := by
  intro run
  have hcalls := callsFor_recognize hbytes token modelId mode w
  have hclassed (kind : FailureKind) (hfailed : FailedAs run.1 kind) : Classed w.outcome kind := by
    cases htimeout : w.configuration.timeout with
    | ok x =>
      obtain ⟨c, htold, hkind, -⟩ := ((hcalls.timed x htimeout).failedAs_iff kind).1 hfailed
      exact (classed_iff_told _ _).2 ⟨c, htold, hkind⟩
    | error e =>
      obtain ⟨c, ⟨message, hended⟩, -⟩ := hfailed
      have hrun : run = _ := hcalls.untimed e htimeout
      rw [hrun] at hended
      exact nomatch hended
  refine ⟨fun x htimeout hvoices kind =>
    failedAs_recognize_iff hbytes htimeout hvoices token modelId mode kind, hclassed, ?_,
    hcalls.untimed⟩
  intro r houtcome haccepted kind hfailed
  have h := hclassed kind hfailed
  rw [houtcome, classed_response_iff] at h
  exact h.1 haccepted

/-- The service in English, and a response whose status counts as true but is not true. -/
def exhausted : World :=
  { answering with
    network := [.response ⟨200, Encoding.Utf8.encodeString
      "\x7b\"status\": 1, \"res\": \x7b\"errType\": \"resource_no_valid\"\x7d\x7d"⟩] }

theorem recognize_classes_exhausted :
    FailedAs (exec (recognize (.str "t") "AAAA" "latex_ocr" none) exhausted).1 .quotaExhausted := by
  have htimeout : exhausted.configuration.timeout =
      .ok (.finite false (120 * Binary64.unitsPerOne)) := eq_ok_of_toOption (by decide +kernel)
  have hbytes : decodeImage "AAAA" = .ok [0, 0, 0] := eq_ok_of_toOption (by decide +kernel)
  have ht : exhausted.translator = .ok inEnglish :=
    (answering.translator_network _).trans translator_answering
  have hvoices (c : Complaint) (hc : exhausted.outcome.told reading = .error (.complaint c)) :
      exhausted.Voices c :=
    voices_of_complete complete_inEnglish ht (known_told hc).listed
  obtain ⟨hclasses, -⟩ := recognize_classes hbytes (.str "t") "latex_ocr" none exhausted
  have hclassed : Classed exhausted.outcome .quotaExhausted :=
    ⟨by decide, by decide +kernel, by decide +kernel⟩
  exact (hclasses _ htimeout hvoices .quotaExhausted).2 hclassed

/-- Every failure in a class is that of a recognition whose call has such an outcome. -/
def Classifies (w : World) : Prop :=
  ∀ (image : String) (bytes : Bytes) (token : Json) (modelId : String) (mode : Option String)
    (kind : FailureKind), decodeImage image = .ok bytes → Classed w.outcome kind →
    FailedAs (exec (recognize token image modelId mode) w).1 kind

/-- A bad timeout and a message that cannot be filled in come instead of the failure. -/
theorem not_classifies : ¬ Classifies mistimed ∧ ¬ Classifies unreachable := by
  have hbytes : decodeImage "AAAA" = .ok [0, 0, 0] := eq_ok_of_toOption (by decide +kernel)
  constructor
  · intro hclaim
    have hclassed : Classed mistimed.outcome .provider :=
      ⟨by decide +kernel, by decide, by decide +kernel, by decide +kernel⟩
    have hcrashed : crashed (exec (recognize (.str "t") "AAAA" "latex_ocr" none) mistimed).1 =
        true := by
      decide +kernel
    exact not_failedAs_of_crashed hcrashed .provider (hclaim _ _ _ _ _ _ hbytes hclassed)
  · intro hclaim
    have hclassed : Interruption.isNetwork ⟨"ConnectError", "down"⟩ = true := by decide
    have hcrashed : crashed (exec (recognize (.str "t") "AAAA" "latex_ocr" none) unreachable).1 =
        true := by
      decide +kernel
    exact not_failedAs_of_crashed hcrashed .network (hclaim _ _ _ _ _ _ hbytes hclassed)

end SimpleTex

end FormulaOcr
