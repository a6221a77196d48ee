import FormulaOcr.Proofs.Recognition.Checks
import FormulaOcr.Proofs.Store.Rewriting

/-! What SimpleTex recognised is counted before it is handed out. A result that cannot be counted is
lost, and the counters can be written unless a directory lies at their place. -/

namespace FormulaOcr

open FormulaOcr.Action FormulaOcr.Localization FormulaOcr.Recognition

/-! The place of the counters. -/

namespace Disk

variable {d d' : Disk} {dir p : Path}

/-- In a directory that is there, the counters have a place. -/
theorem locate_counters (hdir : d.isDirectory dir = true)
    (hshort : (dir.child Usage.filename).toString.utf8ByteSize ≤ longestPath) :
    ∃ place, d.locate (dir.child Usage.filename) = .ok place := by
  obtain ⟨place, hplace, hnode⟩ := isDirectory_iff.1 hdir
  have hwalk : d.walk [] dir.steps = .ok place := by
    unfold locate at hplace
    split_ifs at hplace
    exact hplace
  have hname : ¬ longestStep < Usage.filename.utf8ByteSize := by decide +kernel
  have hdots : Usage.filename ≠ ".." := by decide
  have hstep : d.walk place [Usage.filename] = .ok (place ++ [Usage.filename]) := by
    rw [walk, hnode]
    dsimp only
    rw [if_neg hname, if_neg hdots, walk]
  refine ⟨place ++ [Usage.filename], ?_⟩
  rw [locate, if_neg (Nat.not_lt.2 hshort), child_usageFilename]
  dsimp only
  rw [walk_append, hwalk]
  exact hstep

/-- Where the directory of the counters can be made, they can be written unless a directory lies at
their place. -/
theorem accepts_counters (hmade : (d.makeDirectories dir).1 = .ok ())
    (hshort : (dir.child Usage.filename).toString.utf8ByteSize ≤ longestPath) :
    d.Accepts (dir.child Usage.filename) ↔
      (d.makeDirectories dir).2.isDirectory (dir.child Usage.filename) = false := by
  obtain ⟨place, hplace⟩ := locate_counters (isDirectory_makeDirectories hmade) hshort
  rw [Accepts, parent_usageFilename, ← Bool.not_eq_true, isDirectory_iff]
  constructor
  · rintro ⟨-, there, hthere, hnode⟩ ⟨other, hother, hdirectory⟩
    obtain rfl := Except.ok.inj (hthere.symm.trans hother)
    exact hnode hdirectory
  · intro hnone
    exact ⟨hmade, place, hplace, fun hnode => hnone ⟨place, hplace, hnode⟩⟩

/-- To write the counters touches no file of another name. -/
theorem Rewrites.touches_counters (h : Rewrites (dir.child Usage.filename) d d') :
    d.Touches [Usage.filename] d' := by
  obtain ⟨-, content, hwrite⟩ := h
  rw [child_usageFilename] at hwrite
  exact ((grows_makeDirectories _ _).touches _).trans (write_touches (by decide) hwrite)

end Disk

/-! Labels. -/

namespace Localization.Translator

/-- What a translator calls a model of SimpleTex; one that is not in the table goes by its id. -/
def modelName (t : Translator) (id : String) : String :=
  match SimpleTex.findModel? id with
  | some model => t.say ("models.simpletex." ++ model.id) []
  | none => id

/-- The label of what a model of SimpleTex recognised. -/
def label (t : Translator) (id : String) : String :=
  t.say "recognition.simpletex_label" [("name", .str (t.modelName id))]

end Localization.Translator

namespace Action

variable {α : Type} {w v : World} {t : Translator}

/-- A message that is worded is worded by the translator, and nothing else happens. -/
theorem exec_wording_eq_ok {key text : String} {values : Dictionary Json}
    (h : exec (wording key values) w = (.ok text, v)) :
    ∃ t, w.translator = .ok t ∧ text = t.say key values ∧ v = w.spoken := by
  obtain ⟨j, v', htranslate, hdisplay⟩ := exec_bind_eq_ok h
  obtain ⟨hshown, rfl⟩ := Prod.mk.inj hdisplay
  obtain ⟨_, v', hnames, htold⟩ := exec_bind_eq_ok htranslate
  rw [exec_ofCrash] at hnames
  obtain ⟨-, rfl⟩ := Prod.mk.inj hnames
  obtain ⟨t, v'', hloaded, hfilled⟩ := exec_bind_eq_ok htold
  rw [exec_translator] at hloaded
  obtain ⟨ht, rfl⟩ := Prod.mk.inj hloaded
  rw [exec_ofCrash] at hfilled
  obtain ⟨hj, rfl⟩ := Prod.mk.inj hfilled
  have ht' : w.translator = .ok t := by
    cases htranslator : w.translator with
    | ok t' =>
      rw [htranslator] at ht
      rw [Except.ok.inj ht]
    | error e =>
      rw [htranslator] at ht
      cases ht
  refine ⟨t, ht', ?_, rfl⟩
  rw [← Except.ok.inj hshown, Translator.say]
  cases htranslated : t.translate key values with
  | ok j' =>
    rw [htranslated] at hj
    rw [← Except.ok.inj hj]
    rfl
  | error e =>
    rw [htranslated] at hj
    cases hj

/-- A complaint is no result. -/
theorem exec_complain_ne_ok (c : Complaint) (w : World) (x : α) (v : World) :
    exec (complain c : Action α) w ≠ (.ok x, v) := by
  intro h
  rcases complain_ends (α := α) c w with ⟨e, hended⟩ | ⟨t, -, -, hended⟩
  · rw [h] at hended
    cases hended
  · rw [h] at hended
    cases hended

theorem exec_bind_fst_error {β : Type} {a : Action α} {e : Fault}
    (h : (exec a w).1 = .error e) (f : α → Action β) : (exec (a >>= f) w).1 = .error e := by
  have hended := exec_bind_error (Prod.ext h rfl : exec a w = (.error e, (exec a w).2)) f
  rw [hended]

/-- A file is written, or the disk refuses it. -/
theorem writeFile_ends (p : Path) (text : List Char) (w : World) :
    (exec (writeFile p text) w).1 = .ok () ∨
      ∃ f, (exec (writeFile p text) w).1 = .error (.crash (.disk f)) := by
  rw [exec_writeFile]
  obtain ⟨made, d⟩ := w.disk.makeDirectories (parent p)
  cases made with
  | error f => exact .inr ⟨f, rfl⟩
  | ok _ =>
    dsimp only
    cases d.write p (Encoding.Utf8.encode text) with
    | error f => exact .inr ⟨f, rfl⟩
    | ok d' => exact .inl rfl

/-- A directory is not written over. -/
theorem writeFile_directory {p : Path} (hmade : (w.disk.makeDirectories (parent p)).1 = .ok ())
    (hdir : (w.disk.makeDirectories (parent p)).2.isDirectory p = true) (text : List Char) :
    (exec (writeFile p text) w).1 = .error (.crash (.disk ⟨.isDirectory, p⟩)) := by
  obtain ⟨place, hplace, hnode⟩ := Disk.isDirectory_iff.1 hdir
  rw [exec_writeFile]
  generalize w.disk.makeDirectories (parent p) = made at hmade hplace hnode ⊢
  obtain ⟨result, d⟩ := made
  obtain rfl : result = .ok () := hmade
  dsimp only at hplace hnode ⊢
  rw [Disk.write, hplace]
  dsimp only
  rw [hnode]

end Action

namespace SimpleTex

variable {w v : World} {t : Translator} {text id : String} {result : Result}

/-- Hands out a text under the label of a model. -/
def handOut (text id : String) : Action Result := do
  let name ← displayName id
  return { text, model := ← wording "recognition.simpletex_label" [("name", .str name)] }

/-- A process with a translator has a name for every model. -/
theorem exec_displayName_said (ht : w.translator = .ok t) (id : String) :
    ∃ u, exec (displayName id) w = (.ok (t.modelName id), u) ∧ u.translator = .ok t := by
  unfold displayName Translator.modelName
  cases findModel? id with
  | none => exact ⟨w, rfl, ht⟩
  | some model =>
    obtain ⟨j, hj⟩ := words_nil t ("models.simpletex." ++ model.id) [] rfl
    refine ⟨w.spoken, ?_, (translator_spoken w).trans ht⟩
    dsimp only
    rw [Model.name, exec_wording ht rfl hj, Translator.say, hj]
    rfl

/-- To name a model does no more than to load the translator. -/
theorem displayName_keeps {name : String} (h : exec (displayName id) w = (.ok name, v)) :
    v.translator = w.translator ∧ ∃ kept, v = { w with translators := kept } := by
  unfold displayName at h
  cases hmodel : findModel? id with
  | none =>
    rw [hmodel] at h
    obtain ⟨-, rfl⟩ := Prod.mk.inj h
    exact ⟨rfl, w.translators, rfl⟩
  | some model =>
    rw [hmodel] at h
    obtain ⟨-, -, -, rfl⟩ := exec_wording_eq_ok h
    exact ⟨translator_spoken w, World.spoken_eq w⟩

/-- A process with words for labels hands out every text. -/
theorem exec_handOut (ht : w.translator = .ok t)
    (hwords : t.Words "recognition.simpletex_label" ["name"]) (text id : String) :
    (exec (handOut text id) w).1 = .ok { text, model := t.label id } := by
  obtain ⟨u, hname, hu⟩ := exec_displayName_said ht id
  obtain ⟨j, hj⟩ := hwords [("name", .str (t.modelName id))] rfl
  rw [handOut, exec_bind_ok hname, exec_bind_ok (exec_wording hu rfl hj), Translator.label,
    Translator.say, hj]
  rfl

/-- A text that is handed out has the label that the translator has for the model. -/
theorem handOut_eq_ok (h : exec (handOut text id) w = (.ok result, v)) :
    ∃ t, v.translator = .ok t ∧ result = { text, model := t.label id } ∧
      ∃ kept, v = { w with translators := kept } := by
  obtain ⟨name, u, hname, hrest⟩ := exec_bind_eq_ok h
  obtain ⟨label, u', hlabel, hresult⟩ := exec_bind_eq_ok hrest
  rw [exec_pure] at hresult
  obtain ⟨hmade, rfl⟩ := Prod.mk.inj hresult
  obtain ⟨t, ht, rfl, rfl⟩ := exec_wording_eq_ok hlabel
  obtain ⟨hsame, kept, hkept⟩ := displayName_keeps hname
  obtain ⟨u', hsaid, -⟩ := exec_displayName_said (hsame ▸ ht) id
  obtain rfl : name = t.modelName id :=
    Except.ok.inj (congrArg Prod.fst (hname.symm.trans hsaid))
  obtain ⟨kept', hspoken⟩ := World.spoken_eq u
  refine ⟨t, (translator_spoken u).trans ht, (Except.ok.inj hmade).symm, kept', ?_⟩
  rw [hspoken, hkept]

/-- The call that uploads a picture to a model. -/
def submission (c : Configuration) (timeout : Binary64) (token modelId : String)
    (mode : Option String) (bytes : Bytes) : Call :=
  { verb := .post, url := Provider.simpletex.url c modelId, timeout
    headers := some [("token", .str token)]
    payload := .upload { mode := mode.filter (· != ""), filename := "image.png", bytes } }

/-- A recognition that has a time to wait is one call, and its response is read. -/
theorem exec_recognize {image token modelId : String} {mode : Option String} {bytes : Bytes}
    {x : Binary64} (hbytes : decodeImage image = .ok bytes)
    (htimeout : w.configuration.timeout = .ok x) :
    exec (recognize (.str token) image modelId mode) w =
      match givenBack w.outcome with
      | .ok (.ok r) =>
        exec (ofProblem (reading r)) (w.called
          (submission w.configuration x token modelId mode bytes) (taken w.network).2)
      | .ok (.error i) =>
        exec (complain (.requestFailed i.detail)) (w.called
          (submission w.configuration x token modelId mode bytes) (taken w.network).2)
      | .error e =>
        (.error e, w.called (submission w.configuration x token modelId mode bytes)
          (taken w.network).2) := by
  have hsent := exec_send_timed htimeout .simpletex .post modelId (.str token) []
    (.upload { mode := mode.filter (· != ""), filename := "image.png", bytes })
    (submission w.configuration x token modelId mode bytes) rfl
  rw [recognize, exec_ofComplaint_ok hbytes, upload, exec_bind, hsent, World.outcome]
  cases givenBack (taken w.network).1 with
  | error e => rfl
  | ok given =>
    cases given with
    | ok r => rfl
    | error i =>
      have hended := exec_complain_bind (.requestFailed i.detail) (fun r => ofProblem (reading r))
        (w.called (submission w.configuration x token modelId mode bytes) (taken w.network).2)
      rw [exec_bind] at hended
      exact hended

end SimpleTex

namespace Recognition

open FormulaOcr.SimpleTex

variable {w v : World} {t : Translator} {token image modelId : String} {mode : Mode}
  {result : Result} {p : Path}

/-- With a token, a picture is recognised, counted and handed out. -/
theorem exec_withSimpleTex (token image : String) (mode : Mode) (modelId : String) (w : World) :
    exec (withSimpleTex token image mode modelId) w =
      if token = "" then exec (complain .tokenNotConfigured) w
      else exec (SimpleTex.recognize (.str token) image modelId (uploadMode modelId mode) >>=
        fun found => countRecognition modelId >>= fun _ => handOut found.1 modelId) w :=
  exec_guarded _ _ w

/-- What is counted and handed out is handed out if the counters can be written, and a crash if they
cannot; it is one if a directory lies at their place. -/
theorem counted_ends {dir : Path} (hcounters : w.counterPath = some (dir.child Usage.filename))
    (hspeaks : w.Speaks t) (hwords : t.Words "recognition.simpletex_label" ["name"])
    (text id : String) :
    let ended := (exec (countRecognition id >>= fun _ => handOut text id) w).1
    let counters := dir.child Usage.filename
    (w.disk.Accepts counters → ended = .ok { text, model := t.label id }) ∧
    (¬ w.disk.Accepts counters → ∃ f, ended = .error (.crash (.disk f))) ∧
    ((w.disk.makeDirectories dir).1 = .ok () →
      (w.disk.makeDirectories dir).2.isDirectory counters = true →
      ended = .error (.crash (.disk ⟨.isDirectory, counters⟩))) := by
  intro ended counters
  have hcount := exec_countRecognition hcounters id
  generalize ((Usage.inFile w.disk (dir.child Usage.filename)).increment w.today id).fileText =
    written at hcount
  have hrefused {e : Fault} (h : (exec (writeFile counters written) w).1 = .error e) :
      ended = .error e :=
    exec_bind_fst_error (by rw [hcount]; exact h) _
  refine ⟨fun haccepts => ?_, fun haccepts => ?_, fun hmade hdir => ?_⟩
  · obtain ⟨d, hwrites, -, hwritten⟩ := exec_writeFile_accepted haccepts written
    have hlasting := hspeaks.touches (hwrites.touches_counters.mono (by decide))
    have hended : ended = (exec (handOut text id) { w with disk := d }).1 :=
      congrArg Prod.fst (exec_bind_ok (hcount.trans hwritten) _)
    rw [hended, exec_handOut hlasting.translator hwords]
  · rcases writeFile_ends counters written w with hwritten | ⟨f, hf⟩
    · exact absurd (accepts_of_writeFile hwritten) haccepts
    · exact ⟨f, hrefused hf⟩
  · have hparent : parent counters = dir := parent_usageFilename dir
    rw [← hparent] at hmade hdir
    exact hrefused (writeFile_directory hmade hdir written)

/-- What was recognised is counted after the call and handed out then. -/
theorem exec_withSimpleTex_recognised {bytes : Bytes} {x : Binary64} {r : Response} {found : Json}
    (htoken : token ≠ "") (hbytes : decodeImage image = .ok bytes)
    (htimeout : w.configuration.timeout = .ok x) (hanswer : w.outcome = .response r)
    (hfound : Recognises r found) (hfits : ¬ Oversized found) (mode : Mode) (modelId : String) :
    exec (withSimpleTex token image mode modelId) w =
      exec (countRecognition modelId >>= fun _ => handOut (resultText found) modelId)
        (w.called (submission w.configuration x token modelId (uploadMode modelId mode) bytes)
          (taken w.network).2) := by
  have hreading : ∃ confidence, reading r = .ok (resultText found, confidence) := by
    rw [reading_recognises hfound]
    rcases confidence_cases found with ⟨confidence, hconfidence, -⟩ | ⟨-, hlarge⟩
    · exact ⟨confidence, by rw [hconfidence]; rfl⟩
    · exact absurd hlarge hfits
  obtain ⟨confidence, hreading⟩ := hreading
  have hrecognized : exec (SimpleTex.recognize (.str token) image modelId
      (uploadMode modelId mode)) w = (.ok (resultText found, confidence), w.called
        (submission w.configuration x token modelId (uploadMode modelId mode) bytes)
        (taken w.network).2) := by
    rw [SimpleTex.exec_recognize hbytes htimeout, hanswer, givenBack]
    dsimp only
    rw [hreading]
    rfl
  rw [exec_withSimpleTex, if_neg htoken, exec_bind_ok hrecognized]

namespace Inquiry

variable {q : Inquiry}

theorem served_simpletex (h : q.provider = .simpletex) :
    q.served = withSimpleTex q.token q.image q.namedMode q.modelId := by
  rw [served, h]

/-- An inquiry that passes all checks and goes to SimpleTex has a token and a picture. -/
theorem uploads (hpasses : q.complaint? = none) (hprovider : q.provider = .simpletex) :
    q.token ≠ "" ∧ ∃ bytes, decodeImage q.image = .ok bytes := by
  simp only [complaint?, complaints, List.findSome?_eq_none_iff, id, List.forall_mem_cons]
    at hpasses
  obtain ⟨-, -, -, -, hcredential, hdecoding, -⟩ := hpasses
  have hne : q.credential ≠ "" := by simpa [credentialComplaint] using hcredential
  rw [credential, hprovider] at hne
  refine ⟨hne, ?_⟩
  rw [decodingComplaint, hprovider] at hdecoding
  cases hbytes : decodeImage q.image with
  | ok bytes => exact ⟨bytes, rfl⟩
  | error c => simp [hbytes] at hdecoding

end Inquiry

/-- A picture that was recognised is handed out if the counters can be written, and lost in a crash
if they cannot. Whatever the file of the counters holds, they can be written, but not if a directory
lies in its place. -/
theorem recognition_kept {image mode modelId : String} {x : Binary64} {r : Response} {found : Json}
    {dir : Path}
    (hpasses : (Inquiry.ofArguments w image mode modelId).complaint? = none)
    (hprovider : (Inquiry.ofArguments w image mode modelId).provider = .simpletex)
    (htimeout : w.configuration.timeout = .ok x) (hanswer : w.outcome = .response r)
    (hfound : Recognises r found) (hfits : ¬ Oversized found)
    (hcounters : w.counterPath = some (dir.child Usage.filename)) (hspeaks : w.Speaks t)
    (hwords : t.Words "recognition.simpletex_label" ["name"]) :
    let ended := (exec (Command.runRecognize (.str image) (.str mode) (.str modelId)) w).1
    let counters := dir.child Usage.filename
    let kept : Result :=
      { text := resultText found
        model := t.label (Inquiry.ofArguments w image mode modelId).modelId }
    (ended = .ok kept ↔ w.disk.Accepts counters) ∧
    (¬ w.disk.Accepts counters → ∃ f, ended = .error (.crash (.disk f))) ∧
    ((w.disk.makeDirectories dir).1 = .ok () →
      counters.toString.utf8ByteSize ≤ Disk.longestPath →
      ended =
        if (w.disk.makeDirectories dir).2.isDirectory counters then
          .error (.crash (.disk ⟨.isDirectory, counters⟩))
        else .ok kept) := by
  intro ended counters kept
  have hrun := (Inquiry.screens_complaints image mode modelId w).passes hpasses
  rw [Inquiry.served_simpletex hprovider] at hrun
  obtain ⟨htoken, bytes, hbytes⟩ := Inquiry.uploads hpasses hprovider
  have hrecognised := exec_withSimpleTex_recognised htoken hbytes htimeout hanswer hfound hfits
    (Inquiry.ofArguments w image mode modelId).namedMode
    (Inquiry.ofArguments w image mode modelId).modelId
  generalize hcall : submission w.configuration x _ _ _ bytes = call at hrecognised
  -- the call changes nothing that counting and speaking depend on
  have hspeaks' : (w.called call (taken w.network).2).Speaks t :=
    ⟨hspeaks.translator, hspeaks.lasting⟩
  have hended : ended = (exec (countRecognition _ >>= fun _ => handOut (resultText found) _)
      (w.called call (taken w.network).2)).1 :=
    congrArg Prod.fst (hrun.trans hrecognised)
  obtain ⟨hkept, hlost, hdirectory⟩ := counted_ends (w := w.called call (taken w.network).2)
    hcounters hspeaks' hwords (resultText found) (Inquiry.ofArguments w image mode modelId).modelId
  rw [← hended] at hkept hlost hdirectory
  refine ⟨⟨fun hok => ?_, hkept⟩, hlost, fun hmade hshort => ?_⟩
  · by_contra haccepts
    obtain ⟨f, hf⟩ := hlost haccepts
    cases hok.symm.trans hf
  · have haccepts := Disk.accepts_counters hmade hshort
    split_ifs with hdir
    · exact hdirectory hmade hdir
    · exact hkept (haccepts.2 (by simpa using hdir))

/-- An answer of SimpleTex that the picture was recognised. -/
def recognisedAnswer : Response :=
  ⟨200, Encoding.Utf8.encode (Json.write Json.oneLine
    (.obj [("status", .bool true), ("res", .obj [("latex", .str "x")])]))⟩

theorem recognises_recognisedAnswer :
    Recognises recognisedAnswer (.obj [("latex", .str "x")]) := by
  have hsound : (Json.obj [("status", .bool true), ("res", .obj [("latex", .str "x")])]).Sound := by
    simp [Json.Sound, Json.Everywhere, Json.EverywhereMembers]
  have hdecoded : Encoding.decodeDetected recognisedAnswer.body = .ok (Json.write Json.oneLine
      (.obj [("status", .bool true), ("res", .obj [("latex", .str "x")])])) :=
    eq_ok_of_toOption (by decide +kernel)
  have hbody : Response.jsonOfBytes recognisedAnswer.body =
      .ok (.obj [("status", .bool true), ("res", .obj [("latex", .str "x")])]) := by
    rw [Response.jsonOfBytes, hdecoded]
    dsimp only
    rw [Json.readDecoded_write _ hsound]
    rfl
  exact ⟨rfl, _, hbody, rfl, rfl⟩

/-- A service in English with a token, for which SimpleTex has this answer, and what lies in the
place of its counters. -/
def filing (node : Node) : World :=
  { overconfident with
    network := [.response recognisedAnswer]
    disk := ⟨(install ⟨[]⟩).nodes ++ [(["data"], .directory), (["data", "usage.json"], node)]⟩ }

/-- A file that is no text does no harm, and a directory loses the result. -/
theorem recognition_kept_filing :
    (exec (Command.runRecognize (.str "AAAA") (.str "formula") (.str "simpletex:latex_ocr"))
        (filing (.file [0xFF]))).1 =
          .ok { text := "x", model := "SimpleTex (SimpleTex Standard)" } ∧
      (exec (Command.runRecognize (.str "AAAA") (.str "formula") (.str "simpletex:latex_ocr"))
        (filing .directory)).1 =
          .error (.crash (.disk ⟨.isDirectory, ⟨"/", ["data", "usage.json"]⟩⟩)) := by
  have htimeout : overconfident.configuration.timeout =
      .ok (.finite false (120 * Binary64.unitsPerOne)) := eq_ok_of_toOption (by decide +kernel)
  have hlanguage : overconfident.configuration.language = "en" := by decide +kernel
  -- neither depends on the files
  have hpasses (node : Node) : (Inquiry.ofArguments (filing node) "AAAA" "formula"
      "simpletex:latex_ocr").complaint? = none := by
    change (Inquiry.ofArguments overconfident "AAAA" "formula"
      "simpletex:latex_ocr").complaint? = none
    decide +kernel
  have hprovider (node : Node) : (Inquiry.ofArguments (filing node) "AAAA" "formula"
      "simpletex:latex_ocr").provider = .simpletex := by
    change (Inquiry.ofArguments overconfident "AAAA" "formula"
      "simpletex:latex_ocr").provider = .simpletex
    decide +kernel
  have hspeaks (node : Node) : (filing node).Speaks inEnglish :=
    speaks_english hlanguage rfl ⟨rfl, rfl⟩
  have hfits : ¬ Oversized (.obj [("latex", .str "x")]) := by
    simp [Oversized, Json.member?, Dictionary.find?_cons]
  have hcounters (node : Node) :
      (filing node).counterPath = some (Path.child ⟨"/", ["data"]⟩ Usage.filename) := by
    rw [child_usageFilename]
    rfl
  have hanswer (node : Node) : (filing node).outcome = .response recognisedAnswer := rfl
  have hwords := complete_inEnglish "recognition.simpletex_label" ["name"] (by decide)
  have hends (node : Node) := recognition_kept (hpasses node) (hprovider node) htimeout
    (hanswer node) recognises_recognisedAnswer hfits (hcounters node) (hspeaks node) hwords
  have hshort : (Path.child ⟨"/", ["data"]⟩ Usage.filename).toString.utf8ByteSize ≤
      Disk.longestPath := by
    decide +kernel
  have hmade (node : Node) : ((filing node).disk.makeDirectories ⟨"/", ["data"]⟩).1 = .ok () := by
    rw [Disk.makeDirectories_of_isDirectory]
    exact Disk.isDirectory_iff.2 ⟨["data"], rfl, rfl⟩
  obtain ⟨-, -, hfile⟩ := hends (.file [0xFF])
  obtain ⟨-, -, hdirectory⟩ := hends .directory
  have hfree : ((filing (.file [0xFF])).disk.makeDirectories ⟨"/", ["data"]⟩).2.isDirectory
      (Path.child ⟨"/", ["data"]⟩ Usage.filename) = false := by
    decide +kernel
  have htaken : ((filing .directory).disk.makeDirectories ⟨"/", ["data"]⟩).2.isDirectory
      (Path.child ⟨"/", ["data"]⟩ Usage.filename) = true := by
    decide +kernel
  constructor
  · rw [hfile (hmade _) hshort, hfree]
    rfl
  · rw [hdirectory (hmade _) hshort, htaken]
    rfl

end Recognition

end FormulaOcr
