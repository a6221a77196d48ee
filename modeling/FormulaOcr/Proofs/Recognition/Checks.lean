import FormulaOcr.Proofs.SiliconFlow.Listing

/-! The checks that a recognition makes before it calls a service. They are made in a fixed order,
and the first one that fails is all that happens: there is no call, and no file and no credential is
touched. If none fails, the first call is the one that the arguments ask for. -/

namespace FormulaOcr

open FormulaOcr.Action FormulaOcr.Localization

namespace Recognition

/-- What a recognition is asked for, without the blanks around it, and the credentials that are
stored. -/
structure Inquiry where
  image : String
  mode : String
  selector : String
  token : String
  key : String

namespace Inquiry

/-- The inquiry of a recognition with these arguments. -/
def ofArguments (w : World) (image mode modelId : String) : Inquiry where
  image := Text.trimmed image
  mode := mode
  selector := Text.trimmed modelId
  token := w.storedToken
  key := w.storedKey

variable (q : Inquiry)

/-- The selector has a colon, and so the name of a provider before the first one. -/
def IsExplicit : Prop :=
  ':' ∈ q.selector.toList

instance : Decidable q.IsExplicit :=
  inferInstanceAs (Decidable (_ ∈ _))

def providerName : String :=
  .ofList (q.selector.toList.takeWhile (· != ':'))

/-- The inquiry goes to the standard model of SimpleTex if it chooses none: there is a token, and it
is about a formula. -/
def HasStandard : Prop :=
  q.token ≠ "" ∧ q.mode = "formula"

instance : Decidable q.HasStandard :=
  inferInstanceAs (Decidable (_ ∧ _))

def provider : Provider :=
  if q.IsExplicit then
    if q.providerName = "simpletex" then .simpletex else .siliconflow
  else if q.HasStandard then .simpletex else .siliconflow

def modelId : String :=
  if q.IsExplicit then .ofList (q.selector.toList.dropWhile (· != ':')).tail
  else if q.HasStandard then "latex_ocr" else ""

def credential : String :=
  match q.provider with
  | .simpletex => q.token
  | .siliconflow => q.key

/-! What each of the checks complains of if it fails. -/

def imageComplaint : Option Complaint :=
  if q.image = "" then some .imageMissing else none

def modeComplaint : Option Complaint :=
  if q.mode ∈ ["formula", "ocr", "document"] then none else some (.unknownMode (.str q.mode))

def providerComplaint : Option Complaint :=
  if q.IsExplicit ∧ q.providerName ∉ ["simpletex", "siliconflow"] then
    some (.unknownProvider q.providerName)
  else none

def modelComplaint : Option Complaint :=
  if q.modelId = "" then some .noModelSelected else none

def notConfigured : Complaint :=
  match q.provider with
  | .simpletex => .tokenNotConfigured
  | .siliconflow => .keyNotConfigured

def credentialComplaint : Option Complaint :=
  if q.credential = "" then some q.notConfigured else none

def decodingComplaint : Option Complaint :=
  match q.provider, SimpleTex.decodeImage q.image with
  | .simpletex, .error c => some c
  | _, _ => none

/-- The checks in their order. -/
def complaints : List (Option Complaint) :=
  [q.imageComplaint, q.modeComplaint, q.providerComplaint, q.modelComplaint, q.credentialComplaint,
    q.decodingComplaint]

/-- What the first check that fails complains of. -/
def complaint? : Option Complaint :=
  q.complaints.findSome? id

def namedMode : Mode :=
  (Mode.ofName? q.mode).getD .formula

/-- The first call: an upload of the picture to the model of SimpleTex, which asks the general model
for formulas or documents, or a question to the model of SiliconFlow. -/
def call (c : Configuration) (timeout : Binary64) : Call :=
  match q.provider with
  | .simpletex =>
    { verb := .post, url := Provider.simpletex.url c q.modelId, timeout
      headers := some [("token", .str q.token)]
      payload := .upload
        { mode :=
            if q.modelId = "simpletex_ocr" then
              some (if q.mode = "formula" then "formula" else "document")
            else none
          filename := "image.png"
          bytes := (SimpleTex.decodeImage q.image).toOption.getD [] } }
  | .siliconflow =>
    SiliconFlow.question c timeout (.str q.key) (SiliconFlow.imageUrl q.image) q.modelId
      (prompt q.namedMode)

end Inquiry

/-! One check after the other. -/

section

variable {α : Type} {a b b' : Action α} {w : World} {cs cs' : List (Option Complaint)}

/-- The first of some checks that fails ends an action; if none fails, it goes on as another. -/
def Screens (cs : List (Option Complaint)) (a b : Action α) (w : World) : Prop :=
  exec a w =
    match cs.findSome? id with
    | some c => exec (complain c) w
    | none => exec b w

theorem Screens.nil (a : Action α) (w : World) : Screens [] a a w := rfl

theorem Screens.cons {first : Option Complaint}
    (hfails : ∀ c, first = some c → exec a w = exec (complain c) w)
    (hpasses : first = none → Screens cs a b w) : Screens (first :: cs) a b w := by
  cases first with
  | none => exact hpasses rfl
  | some c => exact hfails c rfl

theorem Screens.append (h : Screens cs a b w)
    (h' : cs.findSome? id = none → Screens cs' b b' w) : Screens (cs ++ cs') a b' w := by
  unfold Screens at h h' ⊢
  rw [List.findSome?_append, h]
  cases hfirst : cs.findSome? id with
  | none => exact h' hfirst
  | some c => rfl

theorem Screens.fails (h : Screens cs a b w) {c : Complaint} (hc : cs.findSome? id = some c) :
    exec a w = exec (complain c) w := by
  unfold Screens at h
  rwa [hc] at h

theorem Screens.passes (h : Screens cs a b w) (hc : cs.findSome? id = none) :
    exec a w = exec b w := by
  unfold Screens at h
  rwa [hc] at h

/-- A complaint leaves the world as it is, except for a translator that it may have loaded. -/
theorem exec_complain_snd (c : Complaint) (w : World) :
    ∃ kept, (exec (complain c : Action α) w).2 = { w with translators := kept } := by
  have htranslator : Agrees (Only fun v => ∃ kept, v = { w with translators := kept })
      translator := by
    refine agrees_translator_of ?_
    rintro _ kept ⟨_, rfl⟩
    exact ⟨kept, rfl⟩
  exact agrees_only.1 (htranslator.complain c) w ⟨w.translators, rfl⟩

theorem exec_guarded {d : Prop} [Decidable d] (c : Complaint) (a : Action α) (w : World) :
    exec (if d then (do complain c; a) else a) w = if d then exec (complain c) w else exec a w := by
  split_ifs
  · exact exec_complain_bind c _ w
  · rfl

theorem exec_ofComplaint_error {β : Type} {r : Except Complaint β} {c : Complaint}
    (h : r = .error c) (f : β → Action α) (w : World) :
    exec (ofComplaint r >>= f) w = exec (complain c) w := by
  rw [h, ofComplaint]
  exact exec_complain_bind c f w

theorem exec_ofComplaint_ok {β : Type} {r : Except Complaint β} {x : β} (h : r = .ok x)
    (f : β → Action α) (w : World) : exec (ofComplaint r >>= f) w = exec (f x) w := by
  rw [h, ofComplaint]
  exact exec_bind_ok (exec_pure x w) f

end

/-! The checks of the arguments. -/

theorem splitFirst_eq (mark : Char) (t : List Char) :
    Text.splitFirst mark t =
      if mark ∈ t then some (t.takeWhile (· != mark), (t.dropWhile (· != mark)).tail)
      else none := by
  induction t with
  | nil => rfl
  | cons c t ih =>
    rw [Text.splitFirst]
    by_cases hc : c = mark
    · simp [hc]
    · rw [if_neg hc, ih]
      by_cases hmem : mark ∈ t
      · simp [hc, hmem, Ne.symm hc]
      · simp [hmem, Ne.symm hc]

theorem providerOfName_eq (name : String) :
    Provider.ofName? name =
      if name = "simpletex" then some .simpletex
      else if name = "siliconflow" then some .siliconflow else none := by
  split_ifs with hsimple hflow
  · rw [hsimple]
    rfl
  · rw [hflow]
    rfl
  · simp [Provider.ofName?, Provider.all, Provider.name, Ne.symm hsimple, Ne.symm hflow]

theorem modeOfName_none {name : String} (h : name ∉ ["formula", "ocr", "document"]) :
    Mode.ofName? name = none := by
  simp only [List.mem_cons, List.not_mem_nil, or_false, not_or] at h
  simp [Mode.ofName?, Mode.all, Mode.name, Ne.symm h.1, Ne.symm h.2.1, Ne.symm h.2.2]

theorem modeOfName_some {name : String} (h : name ∈ ["formula", "ocr", "document"]) :
    ∃ mode, Mode.ofName? name = some mode ∧ (mode = .formula ↔ name = "formula") := by
  simp only [List.mem_cons, List.not_mem_nil, or_false] at h
  rcases h with rfl | rfl | rfl
  · exact ⟨.formula, rfl, by decide⟩
  · exact ⟨.ocr, rfl, by decide⟩
  · exact ⟨.document, rfl, by decide⟩

namespace Inquiry

variable {q : Inquiry} {mode : Mode} {c : Complaint}

theorem parse_error (h : q.modeComplaint = some c) : Mode.parse (.str q.mode) = .error c := by
  unfold modeComplaint at h
  split_ifs at h with hmem
  obtain rfl := Option.some.inj h
  rw [Mode.parse, Json.text?, Option.bind_some, modeOfName_none hmem]

/-- The mode of an inquiry that passes the check for it. -/
theorem parse_ok (h : q.modeComplaint = none) :
    Mode.parse (.str q.mode) = .ok q.namedMode ∧ (q.namedMode = .formula ↔ q.mode = "formula") := by
  unfold modeComplaint at h
  split_ifs at h with hmem
  obtain ⟨mode, hmode, hformula⟩ := modeOfName_some hmem
  rw [namedMode, hmode, Option.getD_some, Mode.parse, Json.text?, Option.bind_some, hmode]
  exact ⟨rfl, hformula⟩

theorem select_explicit (h : q.IsExplicit) (mode : Mode) (hasToken : Bool) :
    select q.selector mode hasToken =
      match Provider.ofName? q.providerName with
      | some provider => .ok (.explicit provider q.modelId)
      | none => .error (.unknownProvider q.providerName) := by
  have hmem : ':' ∈ q.selector.toList := h
  rw [select, splitFirst_eq, if_pos hmem, modelId, if_pos h]
  rfl

theorem select_error (h : q.providerComplaint = some c) (mode : Mode) (hasToken : Bool) :
    select q.selector mode hasToken = .error c := by
  unfold providerComplaint at h
  split_ifs at h with hunknown
  obtain rfl := Option.some.inj h
  obtain ⟨hexplicit, hname⟩ := hunknown
  simp only [List.mem_cons, List.not_mem_nil, or_false, not_or] at hname
  rw [select_explicit hexplicit, providerOfName_eq, if_neg hname.1, if_neg hname.2]

/-- The selection of an inquiry that passes the check of the provider. -/
theorem select_ok (h : q.providerComplaint = none) (hmode : mode = .formula ↔ q.mode = "formula") :
    ∃ selection, select q.selector mode (q.token != "") = .ok selection ∧
      selection.provider = q.provider ∧ selection.modelId = q.modelId := by
  by_cases hexplicit : q.IsExplicit
  · have hname : q.providerName = "simpletex" ∨ q.providerName = "siliconflow" := by
      unfold providerComplaint at h
      split_ifs at h with hunknown
      simpa [hexplicit, or_iff_not_imp_left] using hunknown
    refine ⟨.explicit q.provider q.modelId, ?_, rfl, rfl⟩
    rw [select_explicit hexplicit, providerOfName_eq, provider, if_pos hexplicit]
    rcases hname with hname | hname <;> simp [hname]
  · have hmem : ':' ∉ q.selector.toList := hexplicit
    have hstandard : (q.token != "" && mode = .formula) = true ↔ q.HasStandard := by
      simp [HasStandard, hmode]
    rw [select, splitFirst_eq, if_neg hmem, provider, modelId, if_neg hexplicit, if_neg hexplicit]
    dsimp only
    rw [if_congr hstandard rfl rfl]
    split_ifs
    · exact ⟨.fallbackSimpleTex, rfl, rfl, rfl⟩
    · exact ⟨.fallbackSiliconFlow, rfl, rfl, rfl⟩

/-- The recognition that is left to the service once it is chosen. -/
def served (q : Inquiry) : Action Result :=
  match q.provider with
  | .simpletex => withSimpleTex q.token q.image q.namedMode q.modelId
  | .siliconflow => withSiliconFlow q.key q.image q.namedMode q.modelId

variable {w : World}

/-- The checks of the picture and the mode come first. -/
theorem screens_runRecognize (image mode modelId : String) (w : World) :
    let q := ofArguments w image mode modelId
    Screens [q.imageComplaint, q.modeComplaint]
      (Command.runRecognize (.str image) (.str mode) (.str modelId))
      (recognize { image := q.image, mode := q.namedMode, selector := q.selector }
        { token := q.token, key := q.key }) w := by
  intro q
  have hrun : exec (Command.runRecognize (.str image) (.str mode) (.str modelId)) w =
      if q.image = "" then exec (complain .imageMissing) w
      else exec (ofComplaint (Mode.parse (.str q.mode)) >>= fun mode => do
        let token ← storedText Store.tokenName
        let key ← storedText Store.keyName
        recognize { image := q.image, mode, selector := q.selector } { token, key }) w := by
    unfold Command.runRecognize
    simp only [strip_str, ofCrash, pure_bind]
    exact exec_guarded _ _ w
  refine Screens.cons (fun c hc => ?_) fun himage => Screens.cons (fun c hc => ?_) fun hmode => ?_
  · obtain ⟨hempty, rfl⟩ : q.image = "" ∧ .imageMissing = c := by
      simpa [imageComplaint] using hc
    rw [hrun, if_pos hempty]
  · have hne : q.image ≠ "" := by simpa [imageComplaint] using himage
    rw [hrun, if_neg hne, exec_ofComplaint_error (parse_error hc)]
  · have hne : q.image ≠ "" := by simpa [imageComplaint] using himage
    have hexec (name : String) : exec (storedText name) w =
        (.ok ((w.store.getD ⟨⟨"", []⟩, []⟩).text name), w) := rfl
    rw [Screens, hrun, if_neg hne, exec_ofComplaint_ok (parse_ok hmode).1,
      exec_bind_ok (hexec _), exec_bind_ok (hexec _)]
    rfl

/-- The checks of the provider and the model come next. -/
theorem screens_recognize (hmode : q.modeComplaint = none) (w : World) :
    Screens [q.providerComplaint, q.modelComplaint]
      (recognize { image := q.image, mode := q.namedMode, selector := q.selector }
        { token := q.token, key := q.key }) q.served w := by
  unfold recognize
  refine Screens.cons (fun c hc => ?_) fun hprovider => ?_
  · exact exec_ofComplaint_error (select_error hc _ _) _ w
  · obtain ⟨selection, hselect, hchosen, hmodel⟩ := select_ok hprovider (parse_ok hmode).2
    have hrun := exec_ofComplaint_ok hselect (fun selection => do
      if selection.modelId = "" then complain .noModelSelected
      match selection.provider with
      | .simpletex => withSimpleTex q.token q.image q.namedMode selection.modelId
      | .siliconflow => withSiliconFlow q.key q.image q.namedMode selection.modelId) w
    dsimp only at hrun
    rw [exec_guarded, hmodel, hchosen] at hrun
    refine Screens.cons (fun c hc => ?_) fun hpasses => ?_
    · obtain ⟨hempty, rfl⟩ : q.modelId = "" ∧ .noModelSelected = c := by
        simpa [modelComplaint] using hc
      exact hrun.trans (if_pos hempty)
    · have hne : q.modelId ≠ "" := by simpa [modelComplaint] using hpasses
      exact hrun.trans (if_neg hne)

/-- The checks of the credential and of the picture's data come last. -/
theorem screens_served (q : Inquiry) (w : World) :
    Screens [q.credentialComplaint, q.decodingComplaint] q.served q.served w := by
  refine Screens.cons (fun c hc => ?_) fun hcredential => Screens.cons (fun c hc => ?_) fun _ => rfl
  · obtain ⟨hempty, rfl⟩ : q.credential = "" ∧ q.notConfigured = c := by
      simpa [credentialComplaint] using hc
    unfold credential at hempty
    unfold served notConfigured
    cases hprovider : q.provider with
    | simpletex =>
      simp only [hprovider] at hempty
      exact (exec_guarded _ _ w).trans (if_pos hempty)
    | siliconflow =>
      simp only [hprovider] at hempty
      exact (exec_guarded _ _ w).trans (if_pos hempty)
  · have hne : q.credential ≠ "" := by simpa [credentialComplaint] using hcredential
    unfold decodingComplaint at hc
    unfold credential at hne
    unfold served
    cases hprovider : q.provider with
    | siliconflow => simp [hprovider] at hc
    | simpletex =>
      simp only [hprovider] at hne hc
      cases hdecoded : SimpleTex.decodeImage q.image with
      | ok bytes => simp [hdecoded] at hc
      | error d =>
        simp only [hdecoded, Option.some.injEq] at hc
        obtain rfl := hc
        refine ((exec_guarded _ _ w).trans (if_neg hne)).trans ?_
        simp only [SimpleTex.recognize, bind_assoc]
        exact exec_ofComplaint_error hdecoded _ w

/-- The first complaint ends a recognition; without one, it is left to the service. -/
theorem screens_complaints (image mode modelId : String) (w : World) :
    let q := ofArguments w image mode modelId
    Screens q.complaints (Command.runRecognize (.str image) (.str mode) (.str modelId)) q.served
      w := by
  intro q
  refine (screens_runRecognize image mode modelId w).append fun hpasses => ?_
  have hmode : q.modeComplaint = none := by
    simp only [List.findSome?_eq_none_iff, id] at hpasses
    exact hpasses _ (by simp [q])
  exact (screens_recognize hmode w).append fun _ => screens_served q w

/-- Every complaint has a message that mentions its values. -/
theorem listed_complaint (h : q.complaint? = some c) : c.Listed := by
  obtain ⟨first, hmem, hfirst⟩ := List.exists_of_findSome?_eq_some h
  obtain rfl : first = some c := hfirst
  simp only [complaints, List.mem_cons, List.not_mem_nil, or_false] at hmem
  rcases hmem with h | h | h | h | h | h
  · obtain ⟨-, rfl⟩ : q.image = "" ∧ .imageMissing = c := by simpa [imageComplaint] using h.symm
    exact .inl rfl
  · exact (known_parse (parse_error h.symm)).listed
  · exact (known_select (select_error h.symm .formula false)).listed
  · obtain ⟨-, rfl⟩ : q.modelId = "" ∧ .noModelSelected = c := by
      simpa [modelComplaint] using h.symm
    exact .inl rfl
  · obtain ⟨-, rfl⟩ : q.credential = "" ∧ q.notConfigured = c := by
      simpa [credentialComplaint] using h.symm
    unfold notConfigured
    cases q.provider <;> exact .inl rfl
  · unfold decodingComplaint at h
    split at h
    · next hdecoded =>
      obtain rfl := Option.some.inj h
      exact (SimpleTex.known_decodeImage hdecoded).listed
    · simp at h

end Inquiry

/-! The calls of a recognition. -/

section

variable {α β : Type} {calls : List Call} {w : World} {x : Binary64}

theorem exec_counterPath_snd (w : World) :
    ∃ d p, (exec counterPath w).2 = { w with disk := d, counterPath := p } := by
  cases hpath : w.counterPath with
  | some p => exact ⟨w.disk, some p, by rw [exec_counterPath hpath, ← hpath]⟩
  | none =>
    obtain ⟨d, hd⟩ := exec_dataDirectory_snd w
    rw [exec_counterPath_none hpath]
    generalize exec dataDirectory w = done at hd ⊢
    obtain ⟨result, v⟩ := done
    obtain rfl : v = { w with disk := d } := hd
    cases result with
    | error e => exact ⟨d, w.counterPath, rfl⟩
    | ok dir => exact ⟨d, _, rfl⟩

/-- What does not depend on the files and the place of the counters is kept when this is chosen. -/
theorem agrees_counterPath_of {P : World → Prop}
    (hP : ∀ w d p, P w → P { w with disk := d, counterPath := p }) :
    Agrees (Only P) counterPath := by
  refine agrees_only.2 fun w hw => ?_
  obtain ⟨d, p, hpath⟩ := exec_counterPath_snd w
  rw [hpath]
  exact hP w d p hw

theorem agrees_loadUsage_of {P : World → Prop}
    (hP : ∀ w d p, P w → P { w with disk := d, counterPath := p }) :
    Agrees (Only P) loadUsage := by
  have hread (p : Path) : Agrees (Only P) (readFile p) :=
    agrees_only.2 fun w hw => by rwa [exec_readFile]
  exact (agrees_counterPath_of hP).bind fun p => (hread p).bind fun j => Agrees.pure _

/-- The calls that were made stay made, step by step. -/
theorem basics_calls (calls : List Call) : Basics (Only fun v => calls <+: v.calls) :=
  basics_only (agrees_translator_of fun _ _ hw => hw)
    (fun _ _ hw => hw.trans (List.prefix_append _ _)) (fun _ _ hw => hw)
    (agrees_counterPath_of fun _ _ _ hw => hw)

theorem agrees_countRecognition_calls (calls : List Call) (id : String) :
    Agrees (Only fun v => calls <+: v.calls) (countRecognition id) := by
  refine agrees_only.2 fun w hw => ?_
  obtain ⟨d, p, hpath⟩ := exec_counterPath_snd w
  rw [exec_countRecognition_eq]
  generalize exec counterPath w = done at hpath ⊢
  obtain ⟨result, v⟩ := done
  obtain rfl : v = { w with disk := d, counterPath := p } := hpath
  cases result with
  | error e => exact hw
  | ok path =>
    dsimp only
    obtain ⟨d', hwritten⟩ := exec_writeFile_snd path
      ((Usage.inFile d path).increment w.today id).fileText { w with disk := d, counterPath := p }
    rw [hwritten]
    exact hw

/-- An action makes a call before all else; if the time to wait is no number, it crashes instead. -/
structure Begins (call : Binary64 → Call) (a : Action α) (w : World) : Prop where
  called : ∀ x, w.configuration.timeout = .ok x → w.calls ++ [call x] <+: (exec a w).2.calls
  crashed : ∀ e, w.configuration.timeout = .error e → exec a w = (.error (.crash e), w)

variable {call : Binary64 → Call} {a b : Action α} {f : α → Action β}

theorem Begins.of_eq (h : Begins call b w) (hexec : exec a w = exec b w) : Begins call a w where
  called x hx := by
    rw [hexec]
    exact h.called x hx
  crashed e he := hexec.trans (h.crashed e he)

theorem Begins.bind (h : Begins call a w)
    (hf : ∀ calls x, Agrees (Only fun v => calls <+: v.calls) (f x)) :
    Begins call (a >>= f) w where
  called x hx := by
    have hcalled := h.called x hx
    rw [exec_bind]
    generalize exec a w = done at hcalled ⊢
    obtain ⟨result, v⟩ := done
    cases result with
    | ok y => exact agrees_only.1 (hf _ y) v hcalled
    | error e => exact hcalled
  crashed e he := exec_bind_error (h.crashed e he) f

theorem begins_send (p : Provider) (verb : Verb) (path : String) (credential : Json)
    (headers : List (String × Json)) (payload : Payload) (w : World) :
    Begins (fun timeout =>
      { verb, url := p.url w.configuration path, timeout
        headers := some (Dictionary.merge (p.authHeaders credential) headers), payload })
      (p.send verb path credential headers payload) w where
  called x hx := by
    rw [exec_send_timed hx p verb path credential headers payload _ rfl]
    cases givenBack (taken w.network).1 with
    | error e => exact List.prefix_rfl
    | ok result =>
      cases result with
      | ok r => exact List.prefix_rfl
      | error i =>
        exact agrees_only.1 ((basics_calls _).complain (.requestFailed i.detail)) _ List.prefix_rfl
  crashed e he := exec_send_untimed he p verb path credential headers payload

/-- An upload of a picture that can be sent. -/
theorem begins_withSimpleTex {token image : String} {bytes : Bytes} (htoken : token ≠ "")
    (hbytes : SimpleTex.decodeImage image = .ok bytes) (mode : Mode) (modelId : String)
    (w : World) :
    Begins (fun timeout =>
      { verb := .post, url := Provider.simpletex.url w.configuration modelId, timeout
        headers := some [("token", .str token)]
        payload := .upload
          { mode := (SimpleTex.uploadMode modelId mode).filter (· != ""), filename := "image.png"
            bytes } })
      (withSimpleTex token image mode modelId) w := by
  have hsent := begins_send .simpletex .post modelId (.str token) [] (.upload
    { mode := (SimpleTex.uploadMode modelId mode).filter (· != ""), filename := "image.png"
      bytes }) w
  have hrecognize : Begins _ (SimpleTex.recognize (.str token) image modelId
      (SimpleTex.uploadMode modelId mode)) w :=
    (hsent.bind fun calls r => (basics_calls calls).ofProblem (SimpleTex.reading r)).of_eq
      (exec_ofComplaint_ok hbytes _ w)
  refine (hrecognize.bind fun calls found => ?_).of_eq ((exec_guarded _ _ w).trans (if_neg htoken))
  exact (agrees_countRecognition_calls calls modelId).bind fun _ =>
    ((basics_calls calls).displayName modelId).bind fun name =>
      ((basics_calls calls).wording _ _).bind fun label => Agrees.pure _

theorem begins_withSiliconFlow {key : String} (hkey : key ≠ "") (image : String) (mode : Mode)
    (modelId : String) (w : World) :
    Begins (fun timeout => SiliconFlow.question w.configuration timeout (.str key)
        (SiliconFlow.imageUrl image) modelId (prompt mode))
      (withSiliconFlow key image mode modelId) w := by
  have hask : Begins _ (SiliconFlow.ask (.str key) (SiliconFlow.imageUrl image) modelId
      (prompt mode)) w :=
    (begins_send _ _ _ _ _ _ w).bind fun calls r =>
      (basics_calls calls).ofProblem (SiliconFlow.reading r)
  refine (hask.bind fun calls primary => ?_).of_eq ((exec_guarded _ _ w).trans (if_neg hkey))
  refine Agrees.ite (fun _ => Agrees.pure _) fun _ =>
    Agrees.ite (fun _ => ?_) fun _ => Agrees.pure _
  exact ((basics_calls calls).parallel.verify rfl _ _ _).agrees

end

namespace Inquiry

variable {q : Inquiry}

/-- The mode that an upload asks for, in the words of the inquiry. -/
theorem uploadMode_eq (hformula : q.namedMode = .formula ↔ q.mode = "formula") :
    (SimpleTex.uploadMode q.modelId q.namedMode).filter (· != "") =
      if q.modelId = "simpletex_ocr" then
        some (if q.mode = "formula" then "formula" else "document")
      else none := by
  have hgeneral : SimpleTex.generalModel.id = "simpletex_ocr" := rfl
  rw [SimpleTex.uploadMode, hgeneral, if_congr hformula rfl rfl]
  split_ifs <;> rfl

/-- An inquiry that passes all checks begins with its call. -/
theorem begins_served (h : q.complaint? = none) (w : World) :
    Begins (q.call w.configuration) q.served w := by
  simp only [complaint?, complaints, List.findSome?_eq_none_iff, id, List.forall_mem_cons] at h
  obtain ⟨-, hmode, -, -, hcredential, hdecoding, -⟩ := h
  have hne : q.credential ≠ "" := by simpa [credentialComplaint] using hcredential
  unfold credential at hne
  unfold decodingComplaint at hdecoding
  unfold served call
  cases hprovider : q.provider with
  | simpletex =>
    simp only [hprovider] at hne hdecoding
    cases hbytes : SimpleTex.decodeImage q.image with
    | error c => simp [hbytes] at hdecoding
    | ok bytes =>
      have hbegins := begins_withSimpleTex hne hbytes q.namedMode q.modelId w
      rwa [uploadMode_eq (parse_ok hmode).2] at hbegins
  | siliconflow =>
    simp only [hprovider] at hne
    exact begins_withSiliconFlow hne q.image q.namedMode q.modelId w

end Inquiry

/-- A recognition makes its checks in their order. If one fails, there is no call, nothing but a
translator is loaded, and the failure is that of the first check that failed, if the translator has
words for it. A call is made exactly if none fails and the time to wait is a number, and the first
one is that of the inquiry. -/
theorem recognize_checks (image mode modelId : String) (w : World) :
    let q := Inquiry.ofArguments w image mode modelId
    let run := exec (Command.runRecognize (.str image) (.str mode) (.str modelId)) w
    (run.2.calls ≠ w.calls ↔
      q.complaint? = none ∧ ∃ x, w.configuration.timeout = .ok x) ∧
    (∀ c, q.complaint? = some c →
      (∃ kept, run.2 = { w with translators := kept }) ∧
      ∀ t message, w.translator = .ok t → t.translate c.key c.values = .ok message →
        run.1 = .error (.failure ⟨c, message.display⟩)) ∧
    (q.complaint? = none → ∀ x, w.configuration.timeout = .ok x →
      ∃ more, run.2.calls = w.calls ++ q.call w.configuration x :: more) := by
  intro q run
  have hscreens := Inquiry.screens_complaints image mode modelId w
  have hfails (c : Complaint) (hc : q.complaint? = some c) : run = exec (complain c) w :=
    hscreens.fails hc
  have hkept (c : Complaint) (hc : q.complaint? = some c) :
      ∃ kept, run.2 = { w with translators := kept } := by
    rw [hfails c hc]
    exact exec_complain_snd c w
  have hbegins (hpasses : q.complaint? = none) : Begins (q.call w.configuration)
      (Command.runRecognize (.str image) (.str mode) (.str modelId)) w :=
    (Inquiry.begins_served hpasses w).of_eq (hscreens.passes hpasses)
  have hcalled (hpasses : q.complaint? = none) (x : Binary64)
      (hx : w.configuration.timeout = .ok x) :
      ∃ more, run.2.calls = w.calls ++ q.call w.configuration x :: more := by
    obtain ⟨more, hmore⟩ := (hbegins hpasses).called x hx
    exact ⟨more, by rw [← hmore, List.append_assoc, List.singleton_append]⟩
  refine ⟨?_, fun c hc => ⟨hkept c hc, fun t message ht hmessage => ?_⟩, hcalled⟩
  · constructor
    · intro hcalls
      cases hc : q.complaint? with
      | some c =>
        obtain ⟨kept, hrun⟩ := hkept c hc
        exact absurd (congrArg World.calls hrun) hcalls
      | none =>
        cases htimeout : w.configuration.timeout with
        | ok x => exact ⟨rfl, x, rfl⟩
        | error e =>
          -- the crash comes before the call
          have hrun : run = _ := (hbegins hc).crashed e htimeout
          exact absurd (congrArg (·.2.calls) hrun) hcalls
    · rintro ⟨hpasses, x, hx⟩
      obtain ⟨more, hmore⟩ := hcalled hpasses x hx
      rw [hmore]
      simp
  · have hown : c.values.keys.find? ["self", "key"].contains = none := by
      rcases Inquiry.listed_complaint hc with hnone | hvalued
      · rw [hnone]
        rfl
      · exact own_of_valued hvalued
    rw [hfails c hc, exec_complain_translated ht hown hmessage]

/-- A service in English with a key. -/
def keyed : World :=
  { answering with
    store := some ⟨⟨"/", ["data", "config.json"]⟩, [(Store.keyName, .str "k")]⟩ }

theorem translator_keyed : keyed.translator = .ok inEnglish :=
  translator_answering

/-- A selector that chooses no model is complained of before the picture is looked at, and one that
does has the picture sent. -/
theorem recognize_checks_keyed :
    (exec (Command.runRecognize (.str "no picture") (.str "ocr") (.str "x")) keyed).1 =
        .error (.failure ⟨.noModelSelected, "No model selected"⟩) ∧
      ∃ more, (exec (Command.runRecognize (.str " AAAA ") (.str "ocr") (.str "siliconflow:m"))
        keyed).2.calls =
          SiliconFlow.question keyed.configuration (.finite false (120 * Binary64.unitsPerOne))
            (.str "k") "data:image/png;base64,AAAA" "m" (prompt .ocr) :: more := by
  have htimeout : keyed.configuration.timeout =
      .ok (.finite false (120 * Binary64.unitsPerOne)) := eq_ok_of_toOption (by decide +kernel)
  obtain ⟨-, hfails, -⟩ := recognize_checks "no picture" "ocr" "x" keyed
  obtain ⟨-, -, hcalls⟩ := recognize_checks " AAAA " "ocr" "siliconflow:m" keyed
  refine ⟨(hfails _ rfl).2 _ (.str "No model selected") translator_keyed rfl, ?_⟩
  exact hcalls rfl _ htimeout

/-- The checks decide alone about calls and about the failure. -/
def Decides (w : World) : Prop :=
  ∀ image mode modelId : String,
    let q := Inquiry.ofArguments w image mode modelId
    let run := exec (Command.runRecognize (.str image) (.str mode) (.str modelId)) w
    (run.2.calls ≠ w.calls ↔ q.complaint? = none) ∧
      ∀ c, q.complaint? = some c → ∃ message, run.1 = .error (.failure ⟨c, message⟩)

/-- A service with a key that is told to wait for no number of seconds. -/
def impatient : World :=
  { keyed with
    configuration := ⟨[("FORMULASNAP_LANG", .str "en"), ("HTTP_TIMEOUT", .str "soon")], []⟩ }

/-- A service with a table of its own, in which the message for a bad mode cannot be filled in. -/
def tongueTied : World :=
  { keyed with
    configuration := ⟨[("FORMULASNAP_LANG", .str "/data/label")], []⟩
    disk := ((install ⟨[]⟩).put ["data"] .directory).put ["data", "label.json"]
      (.file (Encoding.Utf8.encodeString "\x7b\"errors.unknown_mode\": \"\x7b\"\x7d")) }

/-- All checks can pass without a call, and one can fail without a failure. -/
theorem not_decides : ¬ Decides impatient ∧ ¬ Decides tongueTied := by
  constructor
  · intro hclaim
    obtain ⟨hcalls, -⟩ := hclaim "AAAA" "formula" "siliconflow:m"
    have hnone : (exec (Command.runRecognize (.str "AAAA") (.str "formula")
        (.str "siliconflow:m")) impatient).2.calls.isEmpty = true := by decide +kernel
    exact hcalls.2 rfl (List.isEmpty_iff.1 hnone)
  · intro hclaim
    obtain ⟨-, hfails⟩ := hclaim "AAAA" "table" "siliconflow:m"
    obtain ⟨message, hrun⟩ := hfails (.unknownMode (.str "table")) rfl
    have hcrashed : crashed (exec (Command.runRecognize (.str "AAAA") (.str "table")
        (.str "siliconflow:m")) tongueTied).1 = true := by decide +kernel
    rw [hrun] at hcrashed
    cases hcrashed

end Recognition

end FormulaOcr
