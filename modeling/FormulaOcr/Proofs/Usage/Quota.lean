import FormulaOcr.Proofs.Channel.Replies
import FormulaOcr.Proofs.Leads
import FormulaOcr.Proofs.Localization.Shipped
import FormulaOcr.Proofs.Session.Reachable
import FormulaOcr.Proofs.Usage.Holding

/-! The accounting of free recognitions. A frame is counted if it is answered with a success and its
selector leads to a model of SimpleTex; every other frame leaves the counters as they are. -/

namespace FormulaOcr

open FormulaOcr.Action FormulaOcr.Localization

variable {t : Translator} {p : Path} {bytes : Option Bytes} {day : String} {w : World}

/-- The counters after a recognition that was counted, or after one that was not. -/
def CountsOf (t : Translator) (p : Path) (bytes : Option Bytes) (day : String) (before : Usage) :
    Option String → World → Prop
  | none => Holding t p bytes day
  | some id => fun v =>
    (∃ bytes', Holding t p bytes' day v) ∧ Usage.inFile v.disk p = before.increment day id

/-- Counting changes the file of the counters if it succeeds, and in no other case. -/
theorem leads_countRecognition (hw : Holding t p bytes day w) (id : String) :
    Leads (countRecognition id) w
      (fun _ => CountsOf t p bytes day (Usage.inFile w.disk p) (some id))
      (Holding t p bytes day) := by
  have hgrows := Disk.grows_makeDirectories w.disk (parent p)
  have hexec := exec_countRecognition hw.path id
  rw [exec_writeFile] at hexec
  cases hmade : w.disk.makeDirectories (parent p) with
  | mk made d =>
    rw [hmade] at hgrows hexec
    have hgrown : Holding t p bytes day { w with disk := d } :=
      hw.touches (List.nil_subset _) (hgrows.touches [])
    cases made with
    | error f => exact Leads.of_exec hexec (fun u hu => nomatch hu) fun _ _ => hgrown
    | ok _ =>
      dsimp only at hexec
      cases hwrite : d.write p (Encoding.Utf8.encode
          ((Usage.inFile w.disk p).increment w.today id).fileText) with
      | error f =>
        rw [hwrite] at hexec
        exact Leads.of_exec hexec (fun u hu => nomatch hu) fun _ _ => hgrown
      | ok d' =>
        rw [hwrite] at hexec
        dsimp only at hexec
        refine Leads.of_exec hexec (fun _ _ => ?_) fun e he => nomatch he
        have htouches : d.Touches [Usage.filename] d' := by
          obtain ⟨dir, rfl⟩ := hw.name
          exact Disk.write_touches (by decide) (child_usageFilename dir ▸ hwrite)
        have hspeaks := hgrown.speaks.touches (htouches.mono (by decide))
        have hdir : d.isDirectory (parent p) = true := by
          have := Disk.isDirectory_makeDirectories (d := w.disk) (p := parent p) (by rw [hmade])
          rwa [hmade] at this
        have hplaced : d'.isDirectory (parent p) = true :=
          Disk.isDirectory_keeps (Disk.keeps_write hwrite) hdir
        refine ⟨⟨_, hw.path, hw.name, hw.day, .inl hplaced, rfl, hw.store, hspeaks⟩, ?_⟩
        obtain ⟨d'', hd, hfile⟩ := countRecognition_ok hw.path hexec
        have hdisk : d' = d'' := congrArg World.disk hd
        rwa [← hdisk, hw.day] at hfile

/-- A model has a name to be shown under, whatever the tables say. -/
theorem exec_displayName (ht : w.translator = .ok t) (id : String) :
    ∃ name v, exec (SimpleTex.displayName id) w = (.ok name, v) := by
  unfold SimpleTex.displayName
  cases SimpleTex.findModel? id with
  | none => exact ⟨id, w, rfl⟩
  | some model =>
    obtain ⟨j, hj⟩ := words_nil t ("models.simpletex." ++ model.id) [] rfl
    exact ⟨_, _, exec_wording ht rfl hj⟩

/-- A recognition by SimpleTex succeeds exactly if it is counted. -/
theorem leads_withSimpleTex (hw : Holding t p bytes day w)
    (hlabel : t.Words "recognition.simpletex_label" ["name"]) (token image : String) (mode : Mode)
    (modelId : String) :
    Leads (Recognition.withSimpleTex token image mode modelId) w
      (fun _ => CountsOf t p bytes day (Usage.inFile w.disk p) (some modelId))
      (Holding t p bytes day) := by
  have hbasics : Basics (Only (Holding t p bytes day)) := Holding.steady.basics
  unfold Recognition.withSimpleTex
  dsimp only
  apply Leads.guarded hbasics hw _
  intro htoken
  apply (Leads.of_agrees (hbasics.simpleTexRecognize _ _ _ _) hw).bind
  intro found v hv
  have hsame : Usage.inFile v.disk p = Usage.inFile w.disk p :=
    Usage.inFile_congr (hv.content.trans hw.content.symm)
  have hcount := leads_countRecognition hv modelId
  rw [hsame] at hcount
  apply hcount.bind
  intro _ u hu
  -- once counted, the label cannot fail
  obtain ⟨⟨bytes', hu⟩, hfile⟩ := hu
  have hkept : Basics (Only (Holding t p bytes' day)) := Holding.steady.basics
  have hname := exec_displayName hu.speaks.translator modelId
  apply (Leads.of_ok (hkept.displayName modelId) hu hname).bind
  intro name x hx
  obtain ⟨label, hlabelled⟩ := hlabel [("name", .str name)] rfl
  have hwording := exec_wording hx.speaks.translator (by rfl) hlabelled
  apply (Leads.of_ok (hkept.wording _ _) hx ⟨_, _, hwording⟩).bind
  intro text y hy
  have hlast : Usage.inFile y.disk p = Usage.inFile u.disk p :=
    Usage.inFile_congr (hy.content.trans hu.content.symm)
  exact Leads.pure ⟨⟨bytes', hy⟩, hlast.trans hfile⟩

/-- The model of SimpleTex that a selection leads to. -/
def quotaModel : Except Complaint Recognition.Selection → Option String
  | .ok selection => if selection.provider = .simpletex then some selection.modelId else none
  | .error _ => none

theorem leads_recognize (hw : Holding t p bytes day w)
    (hlabel : t.Words "recognition.simpletex_label" ["name"]) (request : Recognition.Request)
    (credentials : Recognition.Credentials) :
    Leads (Recognition.recognize request credentials) w
      (fun _ => CountsOf t p bytes day (Usage.inFile w.disk p)
        (quotaModel (Recognition.select request.selector request.mode (credentials.token != ""))))
      (Holding t p bytes day) := by
  have hbasics : Basics (Only (Holding t p bytes day)) := Holding.steady.basics
  unfold Recognition.recognize
  apply (Leads.ofComplaint hbasics hw _).bind
  intro selection v hv
  obtain ⟨hselect, rfl⟩ := hv
  rw [hselect, quotaModel]
  apply Leads.guarded hbasics hw _
  intro hmodel
  cases selection.provider with
  | simpletex => exact leads_withSimpleTex hw hlabel _ _ _ _
  | siliconflow => exact Leads.of_agrees (hbasics.withSiliconFlow _ _ _ _) hw

/-- The model of SimpleTex that the arguments of a recognition lead to. -/
def askedModel (mode modelId : Json) (token : String) : Option String :=
  match Mode.parse mode, Command.strip modelId with
  | .ok mode, .ok selector => quotaModel (Recognition.select selector mode (token != ""))
  | _, _ => none

theorem leads_runRecognize (hw : Holding t p bytes day w)
    (hlabel : t.Words "recognition.simpletex_label" ["name"]) (image mode modelId : Json) :
    Leads (Command.runRecognize image mode modelId) w
      (fun _ => CountsOf t p bytes day (Usage.inFile w.disk p)
        (askedModel mode modelId ((w.store.getD ⟨⟨"", []⟩, []⟩).text Store.tokenName)))
      (Holding t p bytes day) := by
  have hbasics : Basics (Only (Holding t p bytes day)) := Holding.steady.basics
  unfold Command.runRecognize
  apply (Leads.ofCrash _ hw).bind
  intro image v hv
  obtain ⟨-, rfl⟩ := hv
  apply Leads.guarded hbasics hw _
  intro himage
  apply (Leads.ofComplaint hbasics hw _).bind
  intro mode u hu
  obtain ⟨hmode, rfl⟩ := hu
  apply (Leads.ofCrash _ hw).bind
  intro selector u hu
  obtain ⟨hselector, rfl⟩ := hu
  apply (Leads.storedText _).bind
  intro token u hu
  obtain ⟨htoken, rfl⟩ := hu
  apply (Leads.storedText _).bind
  intro key u hu
  obtain ⟨-, rfl⟩ := hu
  rw [askedModel, hmode, hselector, ← htoken]
  exact leads_recognize hw hlabel _ _

/-- The token that a frame is served with; the store may still have to be opened for it. -/
def World.token (w : World) : String :=
  ((exec openStore w).2.store.getD ⟨⟨"", []⟩, []⟩).text Store.tokenName

/-- The model of SimpleTex that a message asks to have a picture recognised with. -/
def asksFor (w : World) (message : Json) : Option String :=
  let payload := (message.member "payload").orElse (.obj [])
  if (message.member "action").text? = some "recognize" then
    askedModel ((payload.member "mode").orElse (.str "formula")) (payload.member "model_id") w.token
  else none

theorem not_recognize_of_commandOf {action : String} (haction : action ≠ "recognize")
    {payload : Json} {c : Command} (hc : Channel.commandOf? action payload = some c)
    (image mode modelId : Json) : c ≠ .recognize image mode modelId := by
  rintro rfl
  unfold Channel.commandOf? at hc
  dsimp only at hc
  split at hc
  all_goals first
    | exact absurd rfl haction
    | simp at hc

theorem leads_run_recognize (hw : Holding t p bytes day w)
    (hlabel : t.Words "recognition.simpletex_label" ["name"]) (image mode modelId : Json) :
    Leads (Command.recognize image mode modelId).run w
      (fun _ => CountsOf t p bytes day (Usage.inFile w.disk p)
        (askedModel mode modelId ((w.store.getD ⟨⟨"", []⟩, []⟩).text Store.tokenName)))
      (Holding t p bytes day) := by
  have hchosen : Leads (discard counterPath) w (fun _ v => v = w) (Holding t p bytes day) := by
    refine Leads.bind (Q := fun _ v => v = w) ?_ fun _ v hv => Leads.pure hv
    exact Leads.of_exec (exec_counterPath hw.path) (fun _ _ => rfl) fun e he => nomatch he
  apply hchosen.bind
  intro _ v hv
  rw [hv]
  exact (leads_runRecognize hw hlabel image mode modelId).bind fun _ u hu => Leads.pure hu

/-- Commands that do not recognise are not counted. -/
theorem leads_run_other (hw : Holding t p bytes day w) (hstore : w.store.isSome = true)
    {c : Command} (hc : ∀ image mode modelId, c ≠ .recognize image mode modelId) :
    Leads c.run w (fun _ => Holding t p bytes day) (Holding t p bytes day) := by
  have hkept : Agrees (Only (WithStore (Holding t p bytes day))) c.run :=
    Holding.steady.conforms.run c.stores_true fun image mode modelId h => absurd h (hc _ _ _)
  exact (Leads.of_agrees hkept ⟨hw, hstore⟩).mono (fun _ _ h => h.1) fun _ h => h.1

/-- A message is counted exactly if it succeeds and asks for a model of SimpleTex. -/
theorem leads_dispatch (hw : Holding t p bytes day w)
    (hlabel : t.Words "recognition.simpletex_label" ["name"]) (message : Json) :
    Leads (Channel.dispatch message) w
      (fun _ => CountsOf t p bytes day (Usage.inFile w.disk p) (asksFor w message))
      (Holding t p bytes day) := by
  have hsteady : Steady (Holding t p bytes day) fun _ => True := Holding.steady
  have hopen : Leads openStore w
      (fun _ v => v = (exec openStore w).2 ∧ WithStore (Holding t p bytes day) v)
      (Holding t p bytes day) := by
    obtain ⟨hkept, hopened⟩ := hsteady.openStore hw
    exact Leads.of_exec rfl (fun u hu => ⟨rfl, hkept, hopened hu⟩) fun _ _ => hkept
  unfold Channel.dispatch
  split
  · next members =>
    dsimp only
    split
    · apply hopen.bind
      intro _ v hv
      obtain ⟨rfl, hv, hstore⟩ := hv
      have hsame : Usage.inFile (exec openStore w).2.disk p = Usage.inFile w.disk p :=
        Usage.inFile_congr (hv.content.trans hw.content.symm)
      rw [← hsame, asksFor]
      split
      · next c hc =>
        obtain ⟨action, haction, hcommand⟩ := Option.bind_eq_some_iff.1 hc
        rw [haction]
        by_cases hrecognize : action = "recognize"
        · subst hrecognize
          obtain rfl := Option.some.inj hcommand
          rw [if_pos rfl]
          exact leads_run_recognize hv hlabel _ _ _
        · rw [if_neg fun h => hrecognize (Option.some.inj h)]
          exact leads_run_other hv hstore (not_recognize_of_commandOf hrecognize hcommand)
      · exact Leads.complain hsteady.basics hv _
    · exact Leads.complain hsteady.basics hw _
  · exact Leads.complain hsteady.basics hw _

/-- The model of SimpleTex that a frame is counted for: the one that it asks for if it is answered
with a success. -/
def counted (w : World) (frame : String) : Option String :=
  if (((Channel.answer frame).run w).1.member "ok").isTrue then asksFor w (Channel.message frame)
  else none

/-- The models that frames are counted for, one after the other. -/
def tally : World → List String → List String
  | _, [] => []
  | w, frame :: frames =>
    (counted w frame).toList ++ tally ((Channel.answer frame).run w).2 frames

theorem counts_answer (hw : Holding t p bytes day w)
    (hlabel : t.Words "recognition.simpletex_label" ["name"]) (frame : String) :
    CountsOf t p bytes day (Usage.inFile w.disk p) (counted w frame)
      ((Channel.answer frame).run w).2 := by
  have hdispatch := leads_dispatch hw hlabel (Channel.message frame)
  have hrun := run_answer frame w
  rw [counted, hrun]
  cases hexec : exec (Channel.dispatch (Channel.message frame)) w with
  | mk result v =>
    cases result with
    | ok reply => exact hdispatch.result reply v hexec
    | error e =>
      have hv := hdispatch.early e v hexec
      cases e <;> exact hv

/-- What frames make of the counters: one recognition more for each that is counted. -/
theorem counts_after (hw : Holding t p bytes day w)
    (hlabel : t.Words "recognition.simpletex_label" ["name"]) (frames : List String) :
    (∃ bytes', Holding t p bytes' day (after w frames)) ∧
      Usage.inFile (after w frames).disk p =
        (tally w frames).foldl (fun u id => u.increment day id) (Usage.inFile w.disk p) := by
  induction frames generalizing w bytes with
  | nil => exact ⟨⟨bytes, hw⟩, rfl⟩
  | cons frame frames ih =>
    have hframe := counts_answer hw hlabel frame
    rw [after_cons, tally, List.foldl_append]
    generalize ((Channel.answer frame).run w).2 = v at hframe ⊢
    cases hcounted : counted w frame with
    | none =>
      rw [hcounted] at hframe
      obtain ⟨hlast, hcounts⟩ := ih hframe
      have hsame : Usage.inFile v.disk p = Usage.inFile w.disk p :=
        Usage.inFile_congr (hframe.content.trans hw.content.symm)
      exact ⟨hlast, hcounts.trans (by rw [hsame]; rfl)⟩
    | some id =>
      rw [hcounted] at hframe
      obtain ⟨⟨bytes', hv⟩, hfile⟩ := hframe
      obtain ⟨hlast, hcounts⟩ := ih hv
      exact ⟨hlast, hcounts.trans (by rw [hfile]; rfl)⟩

theorem Usage.on_increments (u : Usage) (day id : String) (ids : List String) :
    (ids.foldl (fun u id => u.increment day id) u).on day id = u.on day id + ids.count id := by
  induction ids generalizing u with
  | nil => rfl
  | cons model ids ih =>
    rw [List.foldl_cons, ih, Usage.on_increment, if_pos rfl, List.count_cons]
    simp only [beq_iff_eq]
    omega

theorem usageToday_ok {id : String} {n : ℕ} {v : World}
    (h : exec (usageToday id) w = (.ok n, v)) : ∃ p, exec counterPath w = (.ok p, v) ∧
      v.counterPath = some p ∧ n = (Usage.inFile v.disk p).on v.today id := by
  obtain ⟨usage, u, hload, hrest⟩ := exec_bind_eq_ok h
  obtain ⟨p, v', hpath, hread⟩ := exec_bind_eq_ok hload
  rw [exec_bind, exec_readFile] at hread
  obtain ⟨husage, rfl⟩ := Prod.mk.inj hread
  obtain ⟨hn, rfl⟩ := Prod.mk.inj hrest
  refine ⟨p, hpath, counterPath_ok hpath, ?_⟩
  rw [← Except.ok.inj hn, ← Except.ok.inj husage]
  rfl

/-- Counters that are chosen lie in a directory that was made for them. -/
theorem counterPath_chosen {v : World} (hnone : w.counterPath = none)
    (h : exec counterPath w = (.ok p, v)) :
    ∃ (dir : Path) (d : Disk), p = dir.child Usage.filename ∧ w.disk.Grows d ∧
      d.isDirectory dir = true ∧
      v = { w with disk := d, counterPath := some (dir.child Usage.filename) } := by
  rw [exec_counterPath_none hnone, exec_dataDirectory] at h
  cases hdata : w.configuration.dataPath with
  | error c => simp [hdata] at h
  | ok dir =>
    have hgrows := Disk.grows_makeDirectories w.disk dir
    have hdir := Disk.isDirectory_makeDirectories (d := w.disk) (p := dir)
    rw [hdata] at h
    dsimp only at h
    generalize w.disk.makeDirectories dir = done at h hgrows hdir
    obtain ⟨made, d⟩ := done
    cases made with
    | error f => simp [Except.mapError, Except.map] at h
    | ok u =>
      obtain ⟨hp, rfl⟩ := Prod.mk.inj h
      exact ⟨dir, d, (Except.ok.inj hp).symm, hgrows, hdir rfl, rfl⟩

/-- After some frames, the count of a model is what it was before and the number of recognitions
with this model that were answered with a success. A frame that is not counted leaves the file of
the counters as it is, byte for byte. -/
theorem count_after_frames {w₀ : World} (hreach : Reachable w₀)
    (hplaced : ∀ p, w₀.counterPath = some p → w₀.disk.Placed p) (hspeaks : w₀.Speaks t)
    (hlabel : t.Words "recognition.simpletex_label" ["name"]) {id : String} {before : ℕ}
    (hasked : exec (usageToday id) w₀ = (.ok before, w)) (frames : List String) :
    (exec (usageToday id) (after w frames)).1 = .ok (before + (tally w frames).count id) ∧
      ∀ p frame, w.counterPath = some p → counted (after w frames) frame = none →
        ((after w (frames ++ [frame])).disk.read p).toOption =
          ((after w frames).disk.read p).toOption := by
  obtain ⟨p, hpath, hp, hbefore⟩ := usageToday_ok hasked
  have hholding : Holding t p ((w.disk.read p).toOption) w.today w := by
    have hchosen := hreach.chosen
    cases hpath₀ : w₀.counterPath with
    | some q =>
      rw [exec_counterPath hpath₀] at hpath
      obtain ⟨hq, rfl⟩ := Prod.mk.inj hpath
      obtain rfl := Except.ok.inj hq
      exact ⟨hp, hchosen.counters _ hp, rfl, hplaced _ hp, rfl, hchosen.store, hspeaks⟩
    | none =>
      obtain ⟨dir, d, rfl, hgrows, hdir, rfl⟩ := counterPath_chosen hpath₀ hpath
      have hspeaks' := hspeaks.touches (hgrows.touches stateFiles)
      refine ⟨hp, ⟨dir, rfl⟩, rfl, .inl ?_, rfl, hchosen.store, hspeaks'.translator,
        hspeaks'.lasting⟩
      rwa [parent_usageFilename]
  obtain ⟨⟨bytes, hlast⟩, hcounts⟩ := counts_after hholding hlabel frames
  constructor
  · rw [exec_usageToday hlast.path, hcounts, hlast.day, Usage.on_increments, hbefore]
  · intro q frame hq hcounted
    obtain rfl : p = q := Option.some.inj (hp.symm.trans hq)
    have hframe := counts_answer hlast hlabel frame
    rw [hcounted, ← after_append] at hframe
    exact hframe.content.trans hlast.content.symm

/-- An answer of SimpleTex with a formula. -/
def formulaAnswer : Outcome :=
  .response ⟨200, Encoding.Utf8.encodeString
    "\x7b\"status\": true, \"res\": \x7b\"latex\": \"x\"\x7d\x7d"⟩

/-- A fresh service in a language, with a token and a table of one label beside it. -/
def labelled (language label : String) : World :=
  Session.fresh
    ⟨[("FORMULASNAP_DATA_DIR", .str "/data"), ("FORMULASNAP_LANG", .str language)], []⟩
    [(["data", "config.json"],
      .file (Encoding.Utf8.encodeString "\x7b\"simpletex_token\": \"t\"\x7d")),
     (["data", "label.json"], .file (Encoding.Utf8.encodeString
      ("\x7b\"recognition.simpletex_label\": \"" ++ label ++ "\"\x7d")))]
    "2026-03-01" [formulaAnswer] true

/-- A frame that asks for the recognition of a picture. -/
def pictureFrame : String :=
  "\x7b\"action\": \"recognize\", \"payload\": \x7b\"image\": \"AAAA\"\x7d\x7d"

theorem speaks_english (hlanguage : w.configuration.language = "en") (hnone : w.translators = [])
    (hinstalled : Installed w.disk) : w.Speaks inEnglish := by
  have hsettled : Settled stateFiles w.disk "en" := hinstalled.settled (by decide)
  refine ⟨?_, .inr ⟨hsettled, hlanguage ▸ hsettled⟩⟩
  rw [World.translator, hlanguage, hnone]
  exact load_english hinstalled

theorem count_after_pictureFrame :
    ∃ w, exec (usageToday "latex_ocr") (labelled "en" "") = (.ok 0, w) ∧
      (exec (usageToday "latex_ocr") (after w [pictureFrame])).1 = .ok 1 := by
  have hasked : exec (usageToday "latex_ocr") (labelled "en" "") =
      (.ok 0, (exec (usageToday "latex_ocr") (labelled "en" "")).2) :=
    Prod.ext (eq_ok_of_toOption (by decide +kernel)) rfl
  have hspeaks : (labelled "en" "").Speaks inEnglish :=
    speaks_english (by decide +kernel) rfl ⟨rfl, rfl⟩
  have hlabel : inEnglish.Words "recognition.simpletex_label" ["name"] :=
    complete_inEnglish _ _ (by decide)
  have hnone : ∀ p, (labelled "en" "").counterPath = some p → (labelled "en" "").disk.Placed p :=
    fun p hp => nomatch (store_fresh _ _ _ _ _).2.symm.trans hp
  have hcount := count_after_frames (Reachable.fresh _ _ _ _ _) hnone hspeaks hlabel hasked
    [pictureFrame]
  have htally : tally (exec (usageToday "latex_ocr") (labelled "en" "")).2 [pictureFrame] =
      ["latex_ocr"] := by decide +kernel
  refine ⟨_, hasked, hcount.1.trans ?_⟩
  rw [htally]
  rfl

/-- The count of a model grows by the recognitions that were answered with a success. -/
def Accounts (w₀ : World) : Prop :=
  ∀ (w : World) (id : String) (before : ℕ) (frames : List String),
    exec (usageToday id) w₀ = (.ok before, w) →
    (∀ p, w.counterPath = some p → w.disk.isDirectory p = false) →
    (exec (usageToday id) (after w frames)).1 = .ok (before + (tally w frames).count id)

/-- A service whose directory lies behind a detour that is gone. -/
def detoured : World :=
  let w := Session.fresh
    ⟨[("FORMULASNAP_DATA_DIR", .str "/a/../b"), ("FORMULASNAP_LANG", .str "en")], []⟩ []
    "2026-03-01" [] true
  let w := (exec (Session.run (.usage (.increment "latex_ocr"))) w).2
  let w := (exec (Session.run (.store .ensureDefaults)) w).2
  (exec (Session.run (.remove ["a"])) w).2

theorem reachable_detoured : Reachable detoured :=
  ((Reachable.fresh _ _ _ _ _).event (.usage (.increment "latex_ocr")))
    |>.event (.store .ensureDefaults) |>.event (.remove ["a"])

/-- A frame that saves a setting. -/
def savingFrame : String :=
  "\x7b\"action\": \"save_settings\", \"payload\": \x7b\"simpletex_model\": \"m\"\x7d\x7d"

theorem not_accounts_of {w₀ : World} (frame : String)
    (hbefore : (exec (usageToday "latex_ocr") w₀).1.toOption = some 0)
    (hpath : (exec (usageToday "latex_ocr") w₀).2.counterPath.all
      (fun p => !(exec (usageToday "latex_ocr") w₀).2.disk.isDirectory p) = true)
    (htally : tally (exec (usageToday "latex_ocr") w₀).2 [frame] = [])
    (hafter : (exec (usageToday "latex_ocr")
      (after (exec (usageToday "latex_ocr") w₀).2 [frame])).1.toOption = some 1) :
    ¬ Accounts w₀ := by
  intro hclaim
  have hasked : exec (usageToday "latex_ocr") w₀ =
      (.ok 0, (exec (usageToday "latex_ocr") w₀).2) :=
    Prod.ext (eq_ok_of_toOption hbefore) rfl
  have hcount := hclaim _ _ _ [frame] hasked fun p hp => by
    rw [hp] at hpath
    simpa using hpath
  rw [htally, eq_ok_of_toOption hafter] at hcount
  exact absurd (Except.ok.inj hcount) (by decide)

/-- Recognitions can be counted and then fail, if their label cannot be put into words; and counts
can come to light without any, if the directory of the counters is gone. -/
theorem not_accounts :
    (¬ ∀ w₀, Reachable w₀ → (∀ p, w₀.counterPath = some p → w₀.disk.Placed p) → Accounts w₀) ∧
      ¬ ∀ w₀ t, Reachable w₀ → w₀.Speaks t → t.Words "recognition.simpletex_label" ["name"] →
        Accounts w₀ := by
  constructor
  · intro hclaim
    have hnone (p : Path) (hp : (labelled "/data/label" "\x7b").counterPath = some p) :
        (labelled "/data/label" "\x7b").disk.Placed p :=
      nomatch (store_fresh _ _ _ _ _).2.symm.trans hp
    have haccounts := hclaim _ (Reachable.fresh _ _ _ _ _) hnone
    exact not_accounts_of pictureFrame (by decide +kernel) (by decide +kernel)
      (by decide +kernel) (by decide +kernel) haccounts
  · intro hclaim
    have hspeaks : detoured.Speaks inEnglish :=
      speaks_english (by decide +kernel) rfl ⟨rfl, rfl⟩
    have haccounts := hclaim _ _ reachable_detoured hspeaks (complete_inEnglish _ _ (by decide))
    exact not_accounts_of savingFrame (by decide +kernel) (by decide +kernel)
      (by decide +kernel) (by decide +kernel) haccounts

end FormulaOcr
