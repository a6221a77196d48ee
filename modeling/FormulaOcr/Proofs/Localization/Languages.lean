import FormulaOcr.Proofs.Channel.Replies
import FormulaOcr.Proofs.Localization.Speech
import FormulaOcr.Proofs.Session.Abreast

/-! One service in two languages. It makes the same calls, opens the same links, leaves the same
files and fails for the same reasons; what it replies differs in the words of messages alone. The
languages are English, Chinese, and those for which no table can be found. -/

namespace FormulaOcr

open FormulaOcr.Action FormulaOcr.Localization

namespace Localization

/-- The same text, or one message in the words of two translators. The label of a result mentions
the name of a model, which may itself be in the words of each. -/
inductive Rendered (t t' : Translator) : String → String → Prop
  | same (s : String) : Rendered t t' s s
  | message {key : String} {values : Dictionary Json} (h : Message key values.keys) :
      Rendered t t' (t.say key values) (t'.say key values)
  | label {name name' : String} (h : Rendered t t' name name') :
      Rendered t t' (t.say "recognition.simpletex_label" [("name", .str name)])
        (t'.say "recognition.simpletex_label" [("name", .str name')])

/-- The table for a language is looked for and not found, now and whatever the service writes to its
own files. -/
def Lacking (disk : Disk) (language : String) : Prop :=
  ∀ d, disk.Touches stateFiles d → d.hasFile (directory.child (language ++ ".json")) = .ok false

/-- A language that comes with the service, or one without a table. -/
def Offered (disk : Disk) (language : String) : Prop :=
  language = "en" ∨ language = "zh" ∨ Lacking disk language

/-- The translator that speaks a language: there is one for Chinese, and one for all others. -/
def speakerOf (language : String) : Translator :=
  if language = "zh" then inChinese else inEnglish

theorem speakerOf_shipped (language : String) : speakerOf language ∈ shipped := by
  unfold speakerOf
  split_ifs
  · simp [shipped]
  · simp [shipped]

/-- A table that is not there is lacking if no state file can come to lie in its place. -/
theorem lacking_of_settled {disk : Disk} {language : String}
    (hsettled : Settled stateFiles disk language)
    (hnone : disk.hasFile (directory.child (language ++ ".json")) = .ok false) :
    Lacking disk language :=
  fun _ hd => (Disk.Aside.hasFile hsettled hd).1.trans hnone

theorem Offered.touches {disk d : Disk} {language : String} (h : Offered disk language)
    (hd : disk.Touches stateFiles d) : Offered d language := by
  rcases h with h | h | h
  · exact .inl h
  · exact .inr (.inl h)
  · exact .inr (.inr fun d' hd' => h d' (hd.trans hd'))

/-- A table that is not there is not missed: its translator is the one for English. -/
theorem load_lacking {disk : Disk} (h : Installed disk) {language : String}
    (hlacking : disk.hasFile (directory.child (language ++ ".json")) = .ok false) :
    Translator.load disk directory language "en" .null = .ok inEnglish := by
  have henglish : readTable disk directory "en" = .ok (entries english) :=
    readTable_fileText (by decide) h.1
  have hnone : readTable disk directory language = .ok [] := by
    unfold readTable
    dsimp only
    rw [hlacking]
    rfl
  unfold Translator.load
  simp only [henglish, hnone, bind, Except.bind, if_true, ite_self]
  rfl

theorem load_offered {disk : Disk} (h : Installed disk) {language : String}
    (hoffered : Offered disk language) :
    Translator.load disk directory language "en" .null = .ok (speakerOf language) := by
  unfold speakerOf
  split_ifs with hchinese
  · rw [hchinese]
    exact load_chinese h
  · rcases hoffered with rfl | hzh | hlacking
    · exact load_english h
    · exact absurd hzh hchinese
    · exact load_lacking h (hlacking disk ((Disk.Grows.refl disk).touches _))

/-- The tables stay installed when state files are written. -/
theorem Installed.touches {disk d : Disk} (h : Installed disk) (hd : disk.Touches stateFiles d) :
    Installed d := by
  have henglish : directory.child "en.json" =
      ⟨directory.root, directory.steps ++ ["en.json"]⟩ := by
    decide
  have hchinese : directory.child "zh.json" =
      ⟨directory.root, directory.steps ++ ["zh.json"]⟩ := by
    decide
  unfold Installed at h ⊢
  rw [henglish, hchinese] at h ⊢
  exact ⟨Disk.read_ok_touches hd (by decide) (by decide) h.1,
    Disk.read_ok_touches hd (by decide) (by decide) h.2⟩

end Localization

/-! The process. -/

/-- A process that speaks with a translator whatever it writes to its own files. -/
structure World.Fluent (t : Translator) (w : World) : Prop where
  translator : ∀ d, w.disk.Touches stateFiles d → World.translator { w with disk := d } = .ok t
  chosen : w.Chosen

namespace World.Fluent

variable {t : Translator} {w : World}

theorem now (h : w.Fluent t) : w.translator = .ok t :=
  h.translator w.disk ((Disk.Grows.refl w.disk).touches _)

theorem touches (h : w.Fluent t) {names : List String} (hnames : names ⊆ stateFiles) {d : Disk}
    (hd : w.disk.Touches names d) : World.Fluent t { w with disk := d } :=
  ⟨fun d' hd' => h.translator d' ((hd.mono hnames).trans hd'), h.chosen.store, h.chosen.counters⟩

theorem spoken (h : w.Fluent t) : w.spoken.Fluent t := by
  unfold World.spoken
  split
  · next t' hlookup ht' =>
    obtain rfl : t = t' := Except.ok.inj (h.now.symm.trans ht')
    refine ⟨fun d _ => ?_, h.chosen.store, h.chosen.counters⟩
    unfold World.translator
    dsimp only
    rw [lookup_append_self _ hlookup]
  · exact h

theorem steady (t : Translator) : Steady (World.Fluent t) fun _ => True where
  spoken w hw := hw.spoken
  called w network calls hw := ⟨hw.translator, hw.chosen.store, hw.chosen.counters⟩
  opened w opened hw := ⟨hw.translator, hw.chosen.store, hw.chosen.counters⟩
  made w dir hw _ :=
    hw.touches (List.nil_subset _) ((Disk.grows_makeDirectories w.disk dir).touches [])
  remade w s hw _ :=
    hw.touches (List.nil_subset _) ((Disk.grows_makeDirectories w.disk _).touches [])
  tracked w dir hw hdata hdir hnone :=
    ⟨hw.translator, steady_chosen.tracked w dir hw.chosen hdata hdir hnone⟩
  loaded w dir hw hdata hdir hnone :=
    ⟨hw.translator, steady_chosen.loaded w dir hw.chosen hdata hdir hnone⟩
  changed w s values hw hs hvalues :=
    ⟨hw.translator, steady_chosen.changed w s values hw.chosen hs hvalues⟩
  written w s d hw hs hwrite := by
    obtain ⟨dir, hdir⟩ := hw.chosen.store s hs
    rw [hdir, child_storeFilename] at hwrite
    exact hw.touches (by decide) (Disk.write_touches (by decide) hwrite)
  defaults _ _ := trivial

theorem serves (t : Translator) :
    Serves (Only (World.Fluent t)) (Only (WithStore (World.Fluent t))) fun _ => True :=
  (steady t).serves
    (fun w p hw _ =>
      hw.touches (List.nil_subset _) ((Disk.grows_makeDirectories w.disk _).touches []))
    (fun w p bytes d hw hp hwrite => by
      obtain ⟨dir, rfl⟩ := hw.chosen.counters p hp
      rw [child_usageFilename] at hwrite
      exact hw.touches (by decide) (Disk.write_touches (by decide) hwrite))
    (fun w today hw => ⟨hw.translator, hw.chosen.store, hw.chosen.counters⟩)

end World.Fluent

/-- A process translates into the configured language if that is offered and it keeps no other
translator for it. -/
theorem translator_of_offered {w : World} (hinstalled : Installed w.disk)
    (hoffered : Offered w.disk w.configuration.language)
    (hkept : ∀ t, w.translators.lookup w.configuration.language = some t →
      t = speakerOf w.configuration.language) :
    w.translator = .ok (speakerOf w.configuration.language) := by
  unfold World.translator
  cases hlookup : w.translators.lookup w.configuration.language with
  | some t => rw [hkept t hlookup]
  | none => exact load_offered hinstalled hoffered

/-- Such a process goes on to speak that language. -/
theorem fluent_of_offered {w : World} (hinstalled : Installed w.disk) (hchosen : w.Chosen)
    (hoffered : Offered w.disk w.configuration.language)
    (hkept : ∀ t, w.translators.lookup w.configuration.language = some t →
      t = speakerOf w.configuration.language) :
    w.Fluent (speakerOf w.configuration.language) :=
  ⟨fun d hd => translator_of_offered (w := { w with disk := d }) (hinstalled.touches hd)
    (hoffered.touches hd) hkept, hchosen⟩

/-! Two runs. -/

/-- Two runs may differ in how messages are rendered by two translators, but a message that is empty
on one side is so on the other. -/
def Likeness.rendered (t t' : Translator) : Likeness where
  words s s' := Rendered t t' s s' ∧ (s = "" ↔ s' = "")
  credential _ := Eq
  address _ _ := True
  words_refl s := ⟨.same s, Iff.rfl⟩
  credential_refl _ _ := rfl
  words_empty_iff h := h.2
  empty_iff := @Likeness.same.empty_iff

/-- Stores that may differ in nothing. -/
def StoreLikeness.same (L : Likeness) : StoreLikeness L where
  values := Eq
  file := Eq
  storable _ := True
  read h := by rw [h.elim id id]
  nothing := rfl
  written h := by rw [h]
  assign name _ h _ := by rw [h]
  defaults h := by
    rw [h]
    exact ⟨rfl, rfl⟩
  credential p path path' h := by
    rw [h]
    exact L.credential_refl p _
  other h _ := by rw [h]

/-- Two processes that are the same but for the language, each of them fluent in its own. -/
def Bilingual (t t' : Translator) : World → World → Prop :=
  Paired (Abreast (.same (.rendered t t')) fun _ _ => True) (World.Fluent t) (World.Fluent t')

namespace Bilingual

variable {t t' : Translator} {w v : World}

theorem spoken (h : Bilingual t t' w v) : Bilingual t t' w.spoken v.spoken :=
  ⟨h.1.spoken trivial, h.2.1.spoken, h.2.2.spoken⟩

/-- Each side words messages as its translator says. -/
theorem worded (ht : t ∈ shipped) (ht' : t' ∈ shipped) :
    Worded (.rendered t t') (Bilingual t t') where
  wording hmessage w v h := by
    rw [exec_wording_said (complete_shipped ht) h.2.1.now hmessage.mentions,
      exec_wording_said (complete_shipped ht') h.2.2.now hmessage.mentions]
    exact ⟨.ok ⟨.message hmessage, say_empty_iff ht ht' hmessage⟩, h.spoken⟩
  label {name name'} hname w v h := by
    have hlabel (s : String) : (("recognition.simpletex_label" : String),
        Dictionary.keys [("name", Json.str s)]) ∈ valued := by
      simp [valued, Dictionary.keys]
    rw [exec_wording_said (complete_shipped ht) h.2.1.now (.inr (hlabel name)),
      exec_wording_said (complete_shipped ht') h.2.2.now (.inr (hlabel name'))]
    have hsaid {t : Translator} (ht : t ∈ shipped) (s : String) :
        t.say "recognition.simpletex_label" [("name", .str s)] ≠ "" :=
      say_message_ne_empty ht (message_of_valued (hlabel s)) (by decide)
    exact ⟨.ok ⟨.label hname.1, iff_of_false (hsaid ht name) (hsaid ht' name')⟩, h.spoken⟩

/-- The two sides are the same but for the configuration and what they keep of translators. -/
theorem same (h : Bilingual t t' w v) :
    ∃ configuration translators, v = { w with configuration, translators } := by
  have hside := h.1
  have hdisk := hside.disk.eq
  have hcalls := forall₂_eq (Call.Like.eq_of fun _ _ _ hsame => hsame) hside.calls
  have hstore : w.store = v.store := by
    have hstore := hside.store
    generalize w.store = there at hstore
    generalize v.store = there' at hstore
    cases hstore with
    | none => rfl
    | some hlike =>
      obtain ⟨hpath, hvalues⟩ := hlike
      exact congrArg some (congrArg₂ Store.mk hpath hvalues)
  refine ⟨v.configuration, v.translators, ?_⟩
  obtain ⟨-, -, htoday, hnetwork, hbrowser, -, hopened, -, hpath, -, -⟩ := hside
  cases w
  cases v
  simp_all

end Bilingual

/-- What a service replies to the frames of a connection if it is configured in some way, and the
world that it leaves. -/
def Channel.repliesAs (c : Configuration) (frames : List String) (w : World) : List Json × World :=
  (Channel.connection frames).run { w with configuration := c }

/-- Whatever the frames are, a service replies alike in two languages, and the world that it leaves
is the same: its files, the calls made and the links opened. -/
theorem replies_in_languages {w : World} (hinstalled : Installed w.disk) (hchosen : w.Chosen)
    {c c' : Configuration} (hakin : c.Akin c')
    (hlanguages : ∀ language ∈ [c.language, c'.language], Offered w.disk language ∧
      ∀ t, w.translators.lookup language = some t → t = speakerOf language)
    (frames : List String) :
    List.Forall₂ (Channel.Like (.rendered (speakerOf c.language) (speakerOf c'.language)))
        (Channel.repliesAs c frames w).1 (Channel.repliesAs c' frames w).1 ∧
      ∃ configuration translators, (Channel.repliesAs c' frames w).2 =
        { (Channel.repliesAs c frames w).2 with configuration, translators } := by
  have hfluent {d : Configuration} (hd : d.language ∈ [c.language, c'.language]) :
      World.Fluent (speakerOf d.language) { w with configuration := d } := by
    obtain ⟨hoffered, hkept⟩ := hlanguages _ hd
    exact fluent_of_offered (w := { w with configuration := d }) hinstalled
      ⟨hchosen.store, hchosen.counters⟩ hoffered hkept
  have hstart : Bilingual (speakerOf c.language) (speakerOf c'.language)
      { w with configuration := c } { w with configuration := c' } := by
    refine ⟨⟨hakin, .refl _, rfl, rfl, rfl, List.forall₂_same.2 fun call _ => .same call, rfl, ?_,
      rfl, trivial, hchosen.store, hchosen.counters⟩, hfluent (by simp), hfluent (by simp)⟩
    cases w.store with
    | none => exact .none
    | some s => exact .some ⟨rfl, rfl⟩
  have hwords := Bilingual.worded (speakerOf_shipped c.language) (speakerOf_shipped c'.language)
  obtain ⟨hreplies, hleft⟩ := Abreast.connection hwords (World.Fluent.serves _)
    (World.Fluent.serves _) (fun _ _ _ _ _ => trivial) (fun frame _ c _ => c.stores_true) _ _ hstart
  exact ⟨hreplies, Bilingual.same hleft⟩

/-- A configuration for a language. -/
def configuredFor (language : String) : Configuration :=
  ⟨[("FORMULASNAP_DATA_DIR", .str "/data"), (Configuration.languageName, .str language)], []⟩

/-- A service that has just been installed. -/
def unspoken : World :=
  Session.fresh (configuredFor "en") [] "2026-03-01" [] true

theorem lacking_french : Lacking unspoken.disk "fr" := by
  have hnone : unspoken.disk.at? (directory.child "fr.json").steps = none := by decide +kernel
  have hfile : (unspoken.disk.hasFile (directory.child "fr.json")).toOption = some false := by
    decide +kernel
  refine lacking_of_settled (.inr ⟨by decide, by decide, by decide, fun content => ?_⟩)
    (eq_ok_of_toOption hfile)
  rw [show "fr" ++ ".json" = "fr.json" from rfl, hnone]
  simp

/-- There is no table for French. To a frame that holds no object the service replies in English
then, and alike if it is configured for Chinese. -/
theorem replies_in_french :
    let inFrench := Channel.repliesAs (configuredFor "fr") ["[]"] unspoken
    let inChinese := Channel.repliesAs (configuredFor "zh") ["[]"] unspoken
    List.Forall₂ (Channel.Like (.rendered (speakerOf (configuredFor "fr").language)
        (speakerOf (configuredFor "zh").language))) inFrench.1 inChinese.1 ∧
      (∃ configuration translators,
        inChinese.2 = { inFrench.2 with configuration, translators }) ∧
      inFrench.1.map (fun reply => (reply.member "error").text?) =
        [some "Malformed message: expected a JSON object"] := by
  have hakin : (configuredFor "fr").Akin (configuredFor "zh") := by
    intro name hname
    simp [configuredFor, Dictionary.find?_cons, hname.symm]
  have hfrench : (configuredFor "fr").language = "fr" := by decide +kernel
  have hchinese : (configuredFor "zh").language = "zh" := by decide +kernel
  have hinstalled : Installed unspoken.disk := installed_install
  have hchosen : unspoken.Chosen :=
    (Reachable.fresh (configuredFor "en") [] "2026-03-01" [] true).chosen
  have hkept : unspoken.translators = [] := rfl
  obtain ⟨hreplies, hleft⟩ := replies_in_languages hinstalled hchosen hakin (by
    rw [hfrench, hchinese, hkept]
    intro language hmem
    refine ⟨?_, by simp⟩
    rcases List.mem_cons.1 hmem with rfl | hmem
    · exact .inr (.inr lacking_french)
    · exact .inr (.inl (List.mem_singleton.1 hmem))) ["[]"]
  exact ⟨hreplies, hleft, by decide +kernel⟩

end FormulaOcr
