import FormulaOcr.Proofs.Json.Layout
import FormulaOcr.Proofs.Localization.Tables
import FormulaOcr.Proofs.Localization.Wording

/-! The tables that come with the service: they are read as they are, and every message of the
service can be put into words with them. -/

namespace FormulaOcr.Localization

/-- The entries of a table. -/
def entries (table : List (String × String)) : Dictionary Json :=
  table.map fun (key, text) => (key, .str text)

/-- The translators that the tables make. -/
def inEnglish : Translator :=
  ⟨(Dictionary.merge [] (entries builtIn)).merge (entries english)⟩

def inChinese : Translator :=
  ⟨inEnglish.messages.merge (entries chinese)⟩

/-- The messages of the service that mention values, with the names of these. -/
def valued : List (String × List String) :=
  [("errors.simpletex_failed", ["code"]), ("errors.simpletex_http", ["status"]),
   ("errors.request_failed", ["detail"]), ("errors.bad_response", ["detail"]),
   ("errors.image_decode", ["detail"]), ("errors.api_failed", ["status"]),
   ("errors.provider_message", ["message"]), ("errors.unknown_mode", ["mode"]),
   ("errors.unknown_provider", ["provider"]), ("errors.invalid_url", ["url"]),
   ("errors.unknown_action", ["action"]), ("probe.network_error", ["detail"]),
   ("probe.server_error", ["status"]), ("probe.http_status", ["status"]),
   ("pricing.free_per_day", ["count"]), ("pricing.priced", ["input", "output"]),
   ("recognition.simpletex_label", ["name"])]

/-- A translator that can put every message of the service into words. -/
def Translator.Complete (t : Translator) : Prop :=
  ∀ key names, (key, names) ∈ valued → t.Words key names

/-- Whether a message is there and its template is plain. -/
def hasPlain (t : Translator) (key : String) (names : List String) : Bool :=
  match t.messages.find? key with
  | some (.str template) =>
    plainTemplate names template.toList && (names.find? ["self", "key"].contains).isNone
  | _ => false

theorem found_of_hasPlain {t : Translator} {key : String} {names : List String}
    (h : hasPlain t key names = true) :
    ∃ template, t.messages.find? key = some (.str template) ∧
      plainTemplate names template.toList = true ∧
      names.find? ["self", "key"].contains = none := by
  unfold hasPlain at h
  split at h
  · next template hfound =>
    rw [Bool.and_eq_true, Option.isNone_iff_eq_none] at h
    exact ⟨template, hfound, h⟩
  · exact nomatch h

theorem complete_of_plain {t : Translator}
    (h : valued.all (fun (key, names) => hasPlain t key names) = true) : t.Complete := by
  intro key names hmem
  have hplain : hasPlain t key names = true := List.all_eq_true.1 h (key, names) hmem
  obtain ⟨template, hfound, hpieces, hown⟩ := found_of_hasPlain hplain
  exact words_of_plain hfound hpieces hown

theorem plain_inEnglish : valued.all (fun (key, names) => hasPlain inEnglish key names) = true := by
  decide +kernel

theorem plain_inChinese : valued.all (fun (key, names) => hasPlain inChinese key names) = true := by
  decide +kernel

theorem complete_inEnglish : inEnglish.Complete :=
  complete_of_plain plain_inEnglish

theorem complete_inChinese : inChinese.Complete :=
  complete_of_plain plain_inChinese

theorem sound_entries {table : List (String × String)} (h : (table.map (·.1)).Nodup) :
    (Json.obj (entries table)).Sound := by
  rw [Json.Sound, Json.Everywhere, Json.everywhereMembers_iff]
  refine ⟨?_, ?_⟩
  · simpa [entries, Dictionary.keys, Function.comp_def] using h
  · intro member hmember
    obtain ⟨entry, -, rfl⟩ := List.mem_map.1 hmember
    simp [Json.Everywhere]

/-- A table is read from its file. -/
theorem readTable_fileText {disk : Disk} {table : List (String × String)} {language : String}
    (hnames : (table.map (·.1)).Nodup)
    (hfile : disk.read (directory.child (language ++ ".json")) =
      .ok (Encoding.Utf8.encode (fileText table))) :
    readTable disk directory language = .ok (entries table) := by
  have hsound := sound_entries hnames
  have hhas : disk.hasFile (directory.child (language ++ ".json")) = .ok true :=
    Disk.hasFile_of_read hfile
  have htext : disk.readText (directory.child (language ++ ".json")) = .ok (fileText table) := by
    rw [Disk.readText, hfile]
    dsimp only
    rw [Encoding.Utf8.decode_encode]
    dsimp only
    have hwritten : fileText table = Json.write Json.indented (.obj (entries table)) := rfl
    rw [hwritten, Json.withLineFeeds_write]
  have hread : Json.read (fileText table) = .ok (.obj (entries table)) :=
    Json.read_write _ hsound
  unfold readTable
  simp only [hhas, Except.mapError, bind, Except.bind, if_true, htext, hread]
  rfl

/-- A disk that holds the tables. -/
def Installed (disk : Disk) : Prop :=
  disk.read (directory.child "en.json") = .ok (Encoding.Utf8.encode (fileText english)) ∧
    disk.read (directory.child "zh.json") = .ok (Encoding.Utf8.encode (fileText chinese))

theorem load_english {disk : Disk} (h : Installed disk) :
    Translator.load disk directory "en" "en" .null = .ok inEnglish := by
  have hfile : readTable disk directory "en" = .ok (entries english) :=
    readTable_fileText (by decide) h.1
  unfold Translator.load
  simp only [hfile, bind, Except.bind, if_true, decide_true, Bool.or_self]
  rfl

theorem load_chinese {disk : Disk} (h : Installed disk) :
    Translator.load disk directory "zh" "en" .null = .ok inChinese := by
  have henglish : readTable disk directory "en" = .ok (entries english) :=
    readTable_fileText (by decide) h.1
  have hchinese : readTable disk directory "zh" = .ok (entries chinese) :=
    readTable_fileText (by decide) h.2
  unfold Translator.load
  simp only [henglish, hchinese, bind, Except.bind, if_true]
  rfl

/-- The table for English lies aside of all files with other names. -/
theorem Installed.settled {disk : Disk} (h : Installed disk) {names : List String}
    (hnames : "en.json" ∉ names) : Settled names disk "en" := by
  have hpath : directory.child ("en" ++ ".json") =
      ⟨directory.root, directory.steps ++ ["en.json"]⟩ := by
    decide
  have hread := h.1
  unfold Disk.read at hread
  split at hread
  · simp at hread
  · next place hplace =>
    refine .inl ⟨place, hplace, fun name hname hlast => hnames ?_⟩
    have hen := Disk.getLast_of_locate (by decide) (hpath ▸ hplace)
    rw [hen] at hlast
    exact Option.some.inj hlast ▸ hname

theorem installed_install : Installed (install ⟨[]⟩) :=
  ⟨rfl, rfl⟩

end FormulaOcr.Localization
