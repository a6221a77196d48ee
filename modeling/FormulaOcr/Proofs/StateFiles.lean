import FormulaOcr.Proofs.Store.Rewriting
import FormulaOcr.Proofs.Usage.Counting

/-! The two state files. The counters are written in ASCII, the settings with all characters as they
are, both with one member to a line, and either file is read back as what was written, in the same
order. Whatever a file of counters holds, only whole numbers that are not negative are taken from
it. -/

namespace FormulaOcr

open FormulaOcr.Action

/-! The texts. -/

/-- The date, and the counts with one model to a line. -/
theorem Usage.fileText_eq (u : Usage) :
    u.fileText = Json.braced 0
      [Json.entry true "date" (Json.writeString true u.date),
        Json.entry true "models" (Json.braced 1 (u.counts.map fun count =>
          Json.entry true count.1 (Nat.toDigits 10 count.2)))] := by
  have hcount (n : ℕ) : Json.writeInt n = Nat.toDigits 10 n := by
    simp [Json.writeInt, Binary64.withSign]
  rw [fileText, Json.write, toJson, Json.writeValue_indented rfl]
  simp only [List.map_cons, List.map_nil, Json.writeValue_indented (l := Json.indentedAscii) rfl,
    Json.writeValue, List.map_map, Function.comp_def, hcount]
  rfl

theorem Usage.fileText_ascii (u : Usage) :
    ∀ c ∈ u.fileText, c = '\n' ∨ 0x20 ≤ c.toNat ∧ c.toNat < 0x7F := by
  intro c hc
  rcases Json.legible_write Json.indentedAscii u.toJson c hc with hplain | ⟨hascii, -⟩
  · simpa [Json.isPlain] using hplain
  · exact absurd hascii (by decide)

/-- The settings, one to a line. -/
theorem Store.fileText_eq (values : Dictionary Json) :
    Store.fileText values = Json.braced 0 (values.map fun setting =>
      Json.entry false setting.1 (Json.writeValue Json.indented 1 setting.2)) :=
  Json.writeValue_indented rfl 0 values

/-- The text of some counters is read as these counters. -/
theorem Usage.ofJson_read {u : Usage} (hu : u.counts.keys.Nodup) :
    (Json.read u.fileText).map ofJson = .ok u := by
  rw [fileText, Json.read_write _ (sound_toJson hu), Except.map, ofJson_toJson]

/-! Files that are written and read. -/

namespace Action

variable {w : World} {p : Path}

/-- Counters that are written to their file are loaded from it. -/
theorem exec_loadUsage_written {u : Usage} (hu : u.counts.keys.Nodup)
    (hp : w.counterPath = some p) (haccepts : w.disk.Accepts p) :
    ∃ v, exec (writeFile p u.fileText) w = (.ok (), v) ∧
      v.disk.read p = .ok (Encoding.Utf8.encode u.fileText) ∧ exec loadUsage v = (.ok u, v) := by
  obtain ⟨d, -, hread, hwritten⟩ := exec_writeFile_accepted haccepts u.fileText
  have hopen : ({ w with disk := d } : World).counterPath = some p := hp
  refine ⟨_, hwritten, hread, ?_⟩
  rw [exec_loadUsage hopen, Usage.inFile_of_read hu hread]

/-- A store that is saved is read from its file. -/
theorem exec_readFile_saved {values : Dictionary Json} (hvalues : (Json.obj values).Sound)
    (haccepts : w.disk.Accepts p) :
    ∃ v, exec (saveStore ⟨p, values⟩) w = (.ok (), v) ∧
      v.disk.read p = .ok (Encoding.Utf8.encode (Store.fileText values)) ∧
      exec (do return Store.valuesOf (← readFile p)) v = (.ok values, v) := by
  obtain ⟨d, -, hread, hsaved⟩ := exec_saveStore_accepted (s := ⟨p, values⟩) haccepts
  refine ⟨_, hsaved, hread, ?_⟩
  rw [exec_bind, exec_readFile]
  dsimp only
  rw [contentOf_written hvalues hread]
  rfl

/-- To count a recognition is to write the counters that were loaded, with one more in them, and
these are loaded from then on. -/
theorem exec_loadUsage_counted (hp : w.counterPath = some p) (haccepts : w.disk.Accepts p)
    (id : String) :
    ∃ u v, exec loadUsage w = (.ok u, w) ∧ exec (countRecognition id) w = (.ok (), v) ∧
      v.disk.read p = .ok (Encoding.Utf8.encode (u.increment w.today id).fileText) ∧
      exec loadUsage v = (.ok (u.increment w.today id), v) := by
  obtain ⟨v, hwritten, hread, hloaded⟩ := exec_loadUsage_written
    (Usage.nodup_increment (Usage.nodup_inFile w.disk p) w.today id) hp haccepts
  exact ⟨_, v, exec_loadUsage hp, (exec_countRecognition hp id).trans hwritten, hread, hloaded⟩

end Action

/-- Counters and settings are read back as they were written. The text of counters is the date and
one line for each model, all in ASCII, with surrogate pairs for what lies beyond the first 65536
characters; settings are written with one line for each, their texts as they are. Either text is
read as what was written, and so is the file, wherever it can be written. What is taken from a file
of counters are the numbers that are counts and nothing else, in their order. -/
theorem stateFiles_faithful :
    (∀ u : Usage, u.counts.keys.Nodup →
      u.fileText = Json.braced 0
        [Json.entry true "date" (Json.writeString true u.date),
          Json.entry true "models" (Json.braced 1 (u.counts.map fun count =>
            Json.entry true count.1 (Nat.toDigits 10 count.2)))] ∧
      (∀ c ∈ u.fileText, c = '\n' ∨ 0x20 ≤ c.toNat ∧ c.toNat < 0x7F) ∧
      (Json.read u.fileText).map Usage.ofJson = .ok u ∧
      ∀ (w : World) (p : Path), w.counterPath = some p → w.disk.Accepts p →
        ∃ v, exec (writeFile p u.fileText) w = (.ok (), v) ∧
          v.disk.read p = .ok (Encoding.Utf8.encode u.fileText) ∧
          exec loadUsage v = (.ok u, v)) ∧
    (∀ c : Char, 0x10000 ≤ c.toNat →
      ∃ high low, Encoding.Wide.isHighSurrogate high = true ∧
        Encoding.Wide.isLowSurrogate low = true ∧ Encoding.Wide.pair high low = c.toNat ∧
        Json.writeChar true c = Json.unicodeEscape high ++ Json.unicodeEscape low) ∧
    (∀ (w : World) (p : Path) (id : String), w.counterPath = some p → w.disk.Accepts p →
      ∃ u v, exec loadUsage w = (.ok u, w) ∧ exec (countRecognition id) w = (.ok (), v) ∧
        v.disk.read p = .ok (Encoding.Utf8.encode (u.increment w.today id).fileText) ∧
        exec loadUsage v = (.ok (u.increment w.today id), v)) ∧
    (∀ values : Dictionary Json, (Json.obj values).Distinct → (Json.obj values).NumbersReadBack →
      Store.fileText values = Json.braced 0 (values.map fun setting =>
        Json.entry false setting.1 (Json.writeValue Json.indented 1 setting.2)) ∧
      Json.read (Store.fileText values) = .ok (.obj values) ∧
      ∀ (w : World) (p : Path), w.disk.Accepts p →
        ∃ v, exec (saveStore ⟨p, values⟩) w = (.ok (), v) ∧
          v.disk.read p = .ok (Encoding.Utf8.encode (Store.fileText values)) ∧
          exec (do return Store.valuesOf (← readFile p)) v = (.ok values, v)) ∧
    (∀ c : Char, 0x20 ≤ c.toNat → c ≠ '"' → c ≠ '\\' → Json.writeChar false c = [c]) ∧
    ∀ j : Json,
      ((Usage.ofJson j).counts.map fun count => (count.1, Json.int count.2)).Sublist
        (Usage.entries j) ∧
      (∀ (id : String) (n : ℕ), (id, n) ∈ (Usage.ofJson j).counts ↔
        (id, Json.int n) ∈ Usage.entries j) ∧
      Usage.ofJson (Usage.ofJson j).toJson = Usage.ofJson j := by
  refine ⟨fun u hu => ⟨u.fileText_eq, u.fileText_ascii, Usage.ofJson_read hu,
      fun w p hp haccepts => exec_loadUsage_written hu hp haccepts⟩,
    fun c hc => Json.writeChar_supplementary hc,
    fun w p id hp haccepts => exec_loadUsage_counted hp haccepts id,
    fun values hdistinct hnumbers => ?_,
    fun c hc hquote hslash => Json.writeChar_verbatim hc hquote hslash,
    fun j => ⟨Usage.sublist_counts_ofJson j, fun id n => Usage.mem_counts_ofJson,
      Usage.ofJson_toJson _⟩⟩
  have hsound := hdistinct.sound hnumbers
  exact ⟨Store.fileText_eq values, Json.read_write _ hsound,
    fun w p haccepts => exec_readFile_saved hsound haccepts⟩

/-- Counts under ids with a character beyond the first 65536 and with characters to be escaped, and
one under no name at all. -/
def oddCounts : Usage :=
  ⟨"2026-03-01", [("ocr_😀", 3), ("é\"\\\u007f", 0), ("", 7)]⟩

/-- Settings with texts in a list and with what is empty in an object in an object. -/
def oddSettings : Dictionary Json :=
  [(Store.vouchersName, .arr [.str "é/😀", .str "a\"b\\\n"]),
    ("", .obj [("rate", .float (.ofDecimal false 15 (-1))), ("none", .obj [("", .arr [])])]),
    (Store.modelName, .int (-5))]

theorem stateFiles_faithful_odd :
    oddCounts.counts.keys.Nodup ∧ (Json.obj oddSettings).Distinct ∧
      (Json.obj oddSettings).NumbersReadBack ∧
      (∃ v, exec (writeFile ⟨"/", ["data", "usage.json"]⟩ oddCounts.fileText) Session.counted =
        (.ok (), v) ∧ exec loadUsage v = (.ok oddCounts, v)) ∧
      (∃ u v, exec loadUsage Session.counted = (.ok u, Session.counted) ∧
        exec (countRecognition "ocr_😀") Session.counted = (.ok (), v) ∧
        exec loadUsage v = (.ok (u.increment "2026-03-01" "ocr_😀"), v)) ∧
      (∃ v, exec (saveStore ⟨⟨"/", ["data", "config.json"]⟩, oddSettings⟩) Session.counted =
        (.ok (), v) ∧
        exec (do return Store.valuesOf (← readFile ⟨"/", ["data", "config.json"]⟩)) v =
          (.ok oddSettings, v)) ∧
      (∃ high low, Encoding.Wide.pair high low = '😀'.toNat ∧
        Json.writeChar true '😀' = Json.unicodeEscape high ++ Json.unicodeEscape low) ∧
      Json.writeChar false '😀' = ['😀'] := by
  have hcounts : oddCounts.counts.keys.Nodup := by decide
  have hdistinct : (Json.obj oddSettings).Distinct := by
    simp [oddSettings, Json.Distinct, Json.Everywhere, Json.EverywhereItems,
      Json.EverywhereMembers, Store.vouchersName, Store.modelName]
  have hnumbers : (Json.obj oddSettings).NumbersReadBack := by
    simp [oddSettings, Json.NumbersReadBack, Json.Everywhere, Json.EverywhereItems,
      Json.EverywhereMembers, Json.readable_readsBack.decimal false 15 (-1)]
  have haccepts (name : String) (hname : name ∈ [Usage.filename, Store.filename]) :
      Session.counted.disk.Accepts ⟨"/", ["data", name]⟩ := by
    refine ⟨eq_ok_of_toOption ?_, ["data", name], eq_ok_of_toOption ?_, ?_⟩ <;>
      · revert name
        decide +kernel
  obtain ⟨hcounters, hpairs, hincrement, hsettings, hverbatim, -⟩ := stateFiles_faithful
  have hcounter := haccepts Usage.filename (by decide)
  obtain ⟨v, hwritten, -, hloaded⟩ :=
    (hcounters oddCounts hcounts).2.2.2 Session.counted _ rfl hcounter
  obtain ⟨u, v', hu, hcounted, -, hloaded'⟩ :=
    hincrement Session.counted _ "ocr_😀" rfl hcounter
  obtain ⟨v'', hsaved, -, hopened⟩ :=
    (hsettings oddSettings hdistinct hnumbers).2.2 Session.counted _
      (haccepts Store.filename (by decide))
  obtain ⟨high, low, -, -, hpair⟩ := hpairs '😀' (by decide)
  exact ⟨hcounts, hdistinct, hnumbers, ⟨v, hwritten, hloaded⟩, ⟨u, v', hu, hcounted, hloaded'⟩,
    ⟨v'', hsaved, hopened⟩, ⟨high, low, hpair⟩,
    hverbatim '😀' (by decide) (by decide) (by decide)⟩

example : String.ofList oddCounts.fileText =
    "\x7b\n  \"date\": \"2026-03-01\",\n  \"models\": \x7b\n    \"ocr_\\ud83d\\ude00\": 3,\n" ++
    "    \"\\u00e9\\\"\\\\\\u007f\": 0,\n    \"\": 7\n  \x7d\n\x7d" := by
  decide +kernel

end FormulaOcr
