import FormulaOcr.Proofs.Commands
import FormulaOcr.Proofs.Steps

/-! What a process keeps in memory: the store, the place of the counters and the translator are what
it would find in its files if it looked there again. -/

namespace FormulaOcr

open FormulaOcr.Action FormulaOcr.Localization

namespace Disk

variable {d d' : Disk} {p q : Path} {content : Bytes}

/-- A path at which a file can be written. -/
def Writable (d : Disk) (p : Path) : Prop :=
  ∃ place, d.locate p = .ok place ∧ d.at? place ≠ some .directory

theorem Writable.write (h : d.Writable p) (content : Bytes) :
    ∃ d', d.write p content = .ok d' := by
  obtain ⟨place, hplace, hnode⟩ := h
  rw [Disk.write, hplace]
  dsimp only
  split
  · next hdir => exact absurd hdir hnode
  · exact ⟨_, rfl⟩

theorem Writable.after_write (h : d.Writable p) (hw : d.write q content = .ok d') :
    d'.Writable p := by
  obtain ⟨place, hplace, hnode⟩ := h
  refine ⟨place, locate_keeps (keeps_write hw) hplace, ?_⟩
  obtain ⟨other, -, hne, -, rfl⟩ := write_eq hw
  rw [at?_put d hne]
  split_ifs
  · simp
  · exact hnode

end Disk

namespace Store

/-! What a store holds can be written and read back. -/

theorem missing_eq_nil {values : Dictionary Json} :
    missing values = [] ↔ ∀ entry ∈ defaults, entry.1 ∈ values.keys := by
  rw [missing, List.filter_eq_nil_iff]
  simp only [Bool.not_eq_true', Bool.not_eq_false, Dictionary.has_eq_isSome_find?,
    Dictionary.mem_keys_iff]

theorem missing_assign {values : Dictionary Json} (h : missing values = []) (name : String)
    (value : Json) : missing (values.assign name value) = [] := by
  rw [missing_eq_nil] at h ⊢
  exact fun entry hentry => Dictionary.mem_keys_assign.2 (.inr (h entry hentry))

theorem mem_keys_merge {values later : Dictionary Json} {name : String} :
    name ∈ (values.merge later).keys ↔ name ∈ values.keys ∨ name ∈ later.keys := by
  induction later generalizing values with
  | nil => simp [Dictionary.merge]
  | cons entry later ih =>
    have hstep : values.merge (entry :: later) = (values.assign entry.1 entry.2).merge later := rfl
    rw [hstep, ih, Dictionary.mem_keys_assign, Dictionary.keys_cons, List.mem_cons]
    tauto

theorem missing_merge (values : Dictionary Json) :
    missing (values.merge (missing values)) = [] := by
  rw [missing_eq_nil]
  intro entry hentry
  rw [mem_keys_merge]
  by_cases hhas : values.has entry.1 = true
  · left
    rwa [Dictionary.mem_keys_iff, ← Dictionary.has_eq_isSome_find?]
  · right
    exact List.mem_map_of_mem (List.mem_filter.2 ⟨hentry, by simpa using hhas⟩)

/-- The defaults hold neither numbers nor objects. -/
theorem everywhere_missing {number : Binary64 → Prop} {names : List String → Prop}
    (values : Dictionary Json) :
    ∀ entry ∈ missing values, entry.2.Everywhere number names := by
  intro entry hentry
  have hdefault := List.mem_of_mem_filter hentry
  simp only [defaults, List.mem_cons, List.not_mem_nil, or_false] at hdefault
  rcases hdefault with rfl | rfl | rfl
  · simp [Json.Everywhere]
  · simp [Json.Everywhere]
  · simp [Json.Everywhere, Json.EverywhereItems]

end Store

/-- A data directory that is there, and a store in it that can be written and whose numbers are read
back. -/
structure Furnished (d : Disk) (dir : Path) : Prop where
  directory : d.isDirectory dir = true
  writable : d.Writable (dir.child Store.filename)
  numbers : ∀ j, contentOf d (dir.child Store.filename) = some j → j.NumbersReadBack

/-- Once the data directory is made, it is furnished. -/
def Ready (c : Configuration) (d : Disk) : Prop :=
  ∀ dir d', c.dataPath = .ok dir → d.makeDirectories dir = (.ok (), d') → Furnished d' dir

/-- The values that a store finds in its file. -/
def valuesIn (d : Disk) (dir : Path) : Dictionary Json :=
  Store.valuesOf (contentOf d (dir.child Store.filename))

/-- The values that are read from a file can be told from their text. -/
theorem sound_valuesOf (d : Disk) (p : Path) :
    (Json.obj (Store.valuesOf (contentOf d p))).Sound := by
  have hempty : (Json.obj []).Sound := by
    simp [Json.Sound, Json.Everywhere, Json.EverywhereMembers]
  cases hcontent : contentOf d p with
  | none => exact hempty
  | some j =>
    have hsound : j.Sound := by
      unfold contentOf at hcontent
      split at hcontent
      · exact Json.read_sound (eq_ok_of_toOption hcontent)
      · exact nomatch hcontent
    cases j with
    | obj members => exact hsound
    | _ => exact hempty

theorem Ready.furnished {c : Configuration} {d : Disk} {dir : Path} (h : Ready c d)
    (hdata : c.dataPath = .ok dir) (hdir : d.isDirectory dir = true) : Furnished d dir :=
  h dir d hdata (Disk.makeDirectories_of_isDirectory hdir)

theorem Furnished.ready {c : Configuration} {d : Disk} {dir : Path} (h : Furnished d dir)
    (hdata : c.dataPath = .ok dir) : Ready c d := by
  intro dir' d' hdata' hmade
  obtain rfl : dir = dir' := Except.ok.inj (hdata.symm.trans hdata')
  rw [Disk.makeDirectories_of_isDirectory h.directory] at hmade
  obtain ⟨-, rfl⟩ := Prod.mk.inj hmade
  exact h

theorem ready_of_made {c : Configuration} {d : Disk} {dir : Path} (hdata : c.dataPath = .ok dir)
    (h : Furnished (d.makeDirectories dir).2 dir) : Ready c d := by
  intro dir' d' hdata' hmade
  obtain rfl : dir = dir' := Except.ok.inj (hdata.symm.trans hdata')
  rw [hmade] at h
  exact h

theorem Ready.made {c : Configuration} {d : Disk} {dir : Path} (h : Ready c d)
    (hdata : c.dataPath = .ok dir) : Ready c (d.makeDirectories dir).2 := by
  cases hmade : d.makeDirectories dir with
  | mk result d' =>
    cases result with
    | ok _ => exact (h dir d' hdata hmade).ready hdata
    | error fault =>
      obtain ⟨fault', hagain⟩ := Disk.makeDirectories_again hmade
      intro dir' d'' hdata' hmade'
      obtain rfl : dir = dir' := Except.ok.inj (hdata.symm.trans hdata')
      rw [hagain] at hmade'
      simp at hmade'

/-- What stands in a furnished directory stays when other files are written. -/
theorem Furnished.touches {d d' : Disk} {dir : Path} (h : Furnished d dir)
    (ht : d.Touches [Usage.filename] d') :
    d'.isDirectory dir = true ∧ valuesIn d' dir = valuesIn d dir ∧
      contentOf d' (dir.child Store.filename) = contentOf d (dir.child Store.filename) := by
  have hread : (d'.read (dir.child Store.filename)).toOption =
      (d.read (dir.child Store.filename)).toOption := by
    rw [child_storeFilename]
    exact Disk.read_touches ht h.directory (by decide) (by decide)
  have hcontent := contentOf_congr hread
  exact ⟨Disk.isDirectory_keeps ht.keeps h.directory, by rw [valuesIn, hcontent]; rfl, hcontent⟩

theorem Furnished.counted {d d' : Disk} {dir : Path} {content : Bytes} (h : Furnished d dir)
    (hwrite : d.write (dir.child Usage.filename) content = .ok d') : Furnished d' dir := by
  obtain ⟨hdir, -, hcontent⟩ := h.touches (Disk.write_touches (by decide) hwrite)
  exact ⟨hdir, h.writable.after_write hwrite, fun j hj => h.numbers j (hcontent ▸ hj)⟩

/-- A store that was written is found again. -/
theorem Furnished.saved {d d' : Disk} {dir : Path} {values : Dictionary Json} (h : Furnished d dir)
    (hsound : (Json.obj values).Sound)
    (hwrite : d.write (dir.child Store.filename) (Encoding.Utf8.encode (Store.fileText values)) =
      .ok d') : Furnished d' dir ∧ valuesIn d' dir = values := by
  have hcontent : contentOf d' (dir.child Store.filename) = some (.obj values) :=
    contentOf_written hsound (Disk.read_write hwrite)
  refine ⟨⟨Disk.isDirectory_keeps (Disk.keeps_write hwrite) h.directory,
    h.writable.after_write hwrite, fun j hj => ?_⟩, ?_⟩
  · rw [hcontent] at hj
    obtain rfl := Option.some.inj hj
    exact hsound.numbersReadBack
  · rw [valuesIn, hcontent]
    rfl

/-- What a process keeps in memory is what it would find in its files, and so it will stay. -/
structure World.Kept (w : World) : Prop where
  store : ∀ s, w.store = some s → ∃ dir, w.configuration.dataPath = .ok dir ∧
    w.disk.isDirectory dir = true ∧ s = ⟨dir.child Store.filename, valuesIn w.disk dir⟩ ∧
    Store.missing s.values = []
  counters : ∀ p, w.counterPath = some p → ∃ dir, w.configuration.dataPath = .ok dir ∧
    w.disk.isDirectory dir = true ∧ p = dir.child Usage.filename
  translator : ∀ t, w.translators.lookup w.configuration.language = some t →
    Translator.load w.disk directory w.configuration.language "en" .null = .ok t
  english : Settled stateFiles w.disk "en"
  language : Settled stateFiles w.disk w.configuration.language
  ready : Ready w.configuration w.disk

namespace World.Kept

variable {w : World} {dir : Path} {d : Disk}

/-- Directories can be made and the counters written. -/
theorem moved (h : w.Kept) (ht : w.disk.Touches [Usage.filename] d)
    (hready : Ready w.configuration d) : World.Kept { w with disk := d } := by
  have hstate : w.disk.Touches stateFiles d := ht.mono (by decide)
  refine ⟨fun s hs => ?_, fun p hp => ?_, fun t ht' => ?_, h.english.touches hstate,
    h.language.touches hstate, hready⟩
  · obtain ⟨dir, hdata, hdir, heq, hmissing⟩ := h.store s hs
    obtain ⟨hdir', hvalues, -⟩ := (h.ready.furnished hdata hdir).touches ht
    exact ⟨dir, hdata, hdir', by rw [hvalues]; exact heq, hmissing⟩
  · obtain ⟨dir, hdata, hdir, heq⟩ := h.counters p hp
    exact ⟨dir, hdata, Disk.isDirectory_keeps ht.keeps hdir, heq⟩
  · rw [load_touches hstate h.english h.language]
    exact h.translator t ht'

theorem made (h : w.Kept) (hdata : w.configuration.dataPath = .ok dir) :
    World.Kept { w with disk := (w.disk.makeDirectories dir).2 } :=
  h.moved ((Disk.grows_makeDirectories w.disk dir).touches _) (h.ready.made hdata)

/-- The store can be opened. -/
theorem opened (h : w.Kept) (hdata : w.configuration.dataPath = .ok dir)
    (hf : Furnished w.disk dir) (hmissing : Store.missing (valuesIn w.disk dir) = []) :
    World.Kept { w with store := some ⟨dir.child Store.filename, valuesIn w.disk dir⟩ } := by
  refine ⟨fun s hs => ?_, h.counters, h.translator, h.english, h.language, h.ready⟩
  obtain rfl := Option.some.inj hs
  exact ⟨dir, hdata, hf.directory, rfl, hmissing⟩

/-- The store can be written. -/
theorem saved (h : w.Kept) (hdata : w.configuration.dataPath = .ok dir)
    (hf : Furnished w.disk dir) {values : Dictionary Json} (hsound : (Json.obj values).Sound)
    (hmissing : Store.missing values = [])
    (hwrite : w.disk.write (dir.child Store.filename)
      (Encoding.Utf8.encode (Store.fileText values)) = .ok d) :
    World.Kept { w with disk := d, store := some ⟨dir.child Store.filename, values⟩ } := by
  obtain ⟨hf', hvalues⟩ := hf.saved hsound hwrite
  have hkeeps := Disk.keeps_write hwrite
  have hstate : w.disk.Touches stateFiles d :=
    (Disk.write_touches (by decide) hwrite).mono (by decide)
  refine ⟨fun s hs => ?_, fun p hp => ?_, fun t ht => ?_, h.english.touches hstate,
    h.language.touches hstate, hf'.ready hdata⟩
  · obtain rfl := Option.some.inj hs
    exact ⟨dir, hdata, hf'.directory, by rw [hvalues], hmissing⟩
  · obtain ⟨dir', hdata', hdir', heq⟩ := h.counters p hp
    exact ⟨dir', hdata', Disk.isDirectory_keeps hkeeps hdir', heq⟩
  · rw [load_touches hstate h.english h.language]
    exact h.translator t ht

end World.Kept

end FormulaOcr
