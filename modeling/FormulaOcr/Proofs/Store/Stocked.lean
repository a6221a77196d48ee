import FormulaOcr.Proofs.Channel.Replies
import FormulaOcr.Proofs.Session.Steady

/-! What the settings store holds, in memory and in its file, as long as nobody else writes to it:
the defaults, and what frames brought along. -/

namespace FormulaOcr

open FormulaOcr.Action

namespace Disk

/-- What can be made the second time was made the first time. -/
theorem makeDirectories_made {d d' : Disk} {p : Path}
    (h : (d.makeDirectories p).2.makeDirectories p = (.ok (), d')) :
    d.makeDirectories p = (.ok (), d') := by
  cases hmade : d.makeDirectories p with
  | mk result d₁ =>
    rw [hmade] at h
    cases result with
    | ok _ =>
      have hdir := isDirectory_makeDirectories (d := d) (p := p) (by rw [hmade])
      rw [hmade] at hdir
      rw [makeDirectories_of_isDirectory hdir] at h
      exact h
    | error fault =>
      obtain ⟨fault', hagain⟩ := makeDirectories_again hmade
      rw [hagain] at h
      simp at h

end Disk

/-- Bytes as an open store writes them: they hold values with a property. -/
structure Store.Wrote (V : Json → Prop) (store : Option Store) (bytes : Bytes) : Prop where
  opened : store.isSome = true
  values : ∃ values, bytes = Encoding.Utf8.encode (Store.fileText values) ∧
    ∀ entry ∈ values, V entry.2

/-- The store, in memory and in the file of the data directory, holds values with a property. As
long as it is not open, there is no file. -/
structure World.Stocked (c : Configuration) (V : Json → Prop) (w : World) : Prop where
  configuration : w.configuration = c
  store : ∀ s, w.store = some s → ∃ dir, c.dataPath = .ok dir ∧ w.disk.isDirectory dir = true ∧
    s.path = dir.child Store.filename ∧ ∀ entry ∈ s.values, V entry.2
  counters : ∀ p, w.counterPath = some p → ∃ dir, c.dataPath = .ok dir ∧
    w.disk.isDirectory dir = true ∧ p = dir.child Usage.filename
  file : ∀ dir d bytes, c.dataPath = .ok dir → w.disk.makeDirectories dir = (.ok (), d) →
    d.read (dir.child Store.filename) = .ok bytes → Store.Wrote V w.store bytes

namespace World.Stocked

variable {c : Configuration} {V : Json → Prop} {w : World}

/-- A process that starts in a data directory without a store. -/
theorem started (hstore : w.store = none) (hpath : w.counterPath = none)
    (hempty : ∀ dir d, w.configuration.dataPath = .ok dir →
      w.disk.makeDirectories dir = (.ok (), d) →
        (d.read (dir.child Store.filename)).toOption = none) :
    w.Stocked w.configuration V := by
  refine ⟨rfl, fun s hs => ?_, fun p hp => ?_, fun dir d bytes hdata hmade hread => ?_⟩
  · exact nomatch hstore.symm.trans hs
  · exact nomatch hpath.symm.trans hp
  · have hnone := hempty dir d hdata hmade
    rw [hread] at hnone
    exact nomatch hnone

/-- A directory that is there stays as it is. -/
theorem inFile (h : w.Stocked c V) {dir : Path} (hdata : c.dataPath = .ok dir)
    (hdir : w.disk.isDirectory dir = true) {bytes : Bytes}
    (hread : w.disk.read (dir.child Store.filename) = .ok bytes) :
    Store.Wrote V w.store bytes :=
  h.file dir w.disk bytes hdata (Disk.makeDirectories_of_isDirectory hdir) hread

/-- Another disk will do, if it keeps the directories and its file holds such values. -/
theorem moved (h : w.Stocked c V) {d : Disk} (hkeeps : w.disk.Keeps d)
    (hfile : ∀ dir d' bytes, c.dataPath = .ok dir → d.makeDirectories dir = (.ok (), d') →
      d'.read (dir.child Store.filename) = .ok bytes → Store.Wrote V w.store bytes) :
    World.Stocked c V { w with disk := d } := by
  refine ⟨h.configuration, fun s hs => ?_, fun p hp => ?_, hfile⟩
  · obtain ⟨dir, hdata, hdir, hrest⟩ := h.store s hs
    exact ⟨dir, hdata, Disk.isDirectory_keeps hkeeps hdir, hrest⟩
  · obtain ⟨dir, hdata, hdir, hrest⟩ := h.counters p hp
    exact ⟨dir, hdata, Disk.isDirectory_keeps hkeeps hdir, hrest⟩

theorem made (h : w.Stocked c V) {dir : Path} (hdata : c.dataPath = .ok dir) :
    World.Stocked c V { w with disk := (w.disk.makeDirectories dir).2 } := by
  refine h.moved (Disk.grows_makeDirectories w.disk dir).keeps fun dir' d' bytes hdata' hmade => ?_
  obtain rfl : dir = dir' := Except.ok.inj (hdata.symm.trans hdata')
  exact h.file dir d' bytes hdata (Disk.makeDirectories_made hmade)

/-- A file was written in the data directory: the store, or another one. -/
theorem written (h : w.Stocked c V) {dir : Path} {d : Disk} {p : Path} {content : Bytes}
    (hdata : c.dataPath = .ok dir) (hdir : w.disk.isDirectory dir = true)
    (hwrite : w.disk.write p content = .ok d)
    (hfile : ∀ bytes, d.read (dir.child Store.filename) = .ok bytes → Store.Wrote V w.store bytes) :
    World.Stocked c V { w with disk := d } := by
  have hkeeps := Disk.keeps_write hwrite
  refine h.moved hkeeps fun dir' d' bytes hdata' hmade hread => ?_
  obtain rfl : dir = dir' := Except.ok.inj (hdata.symm.trans hdata')
  rw [Disk.makeDirectories_of_isDirectory (Disk.isDirectory_keeps hkeeps hdir)] at hmade
  rw [← (Prod.mk.inj hmade).2] at hread
  exact hfile bytes hread

theorem steady (hplain : ∀ j : Json, j.Plain → V j) : Steady (World.Stocked c V) V where
  spoken w hw := by
    obtain ⟨kept, hspoken⟩ := World.spoken_eq w
    rw [hspoken]
    exact ⟨hw.configuration, hw.store, hw.counters, hw.file⟩
  called w network calls hw := ⟨hw.configuration, hw.store, hw.counters, hw.file⟩
  opened w opened hw := ⟨hw.configuration, hw.store, hw.counters, hw.file⟩
  made w dir hw hdata := hw.made (hw.configuration ▸ hdata)
  remade w s hw hs := by
    obtain ⟨dir, hdata, hdir, hpath, -⟩ := hw.store s hs
    rw [hpath, parent_storeFilename, Disk.makeDirectories_of_isDirectory hdir]
    exact hw
  tracked w dir hw hdata hdir _ := by
    refine ⟨hw.configuration, hw.store, fun p hp => ?_, hw.file⟩
    exact ⟨dir, hw.configuration ▸ hdata, hdir, (Option.some.inj hp).symm⟩
  loaded w dir hw hdata hdir hnone := by
    rw [hw.configuration] at hdata
    have hread : ∀ bytes, w.disk.read (dir.child Store.filename) ≠ .ok bytes := by
      intro bytes hread
      have hopen := (hw.inFile hdata hdir hread).opened
      rw [hnone] at hopen
      simp at hopen
    have hvalues : Store.valuesOf (contentOf w.disk (dir.child Store.filename)) = [] := by
      unfold contentOf Disk.readText
      cases hresult : w.disk.read (dir.child Store.filename) with
      | ok bytes => exact absurd hresult (hread bytes)
      | error f => rfl
    rw [hvalues]
    refine ⟨hw.configuration, fun s hs => ?_, hw.counters, fun dir' d' bytes hdata' hmade hfile =>
      ⟨rfl, (hw.file dir' d' bytes hdata' hmade hfile).values⟩⟩
    obtain rfl := Option.some.inj hs
    exact ⟨dir, hdata, hdir, rfl, by simp⟩
  changed w s values hw hs hvalues := by
    obtain ⟨dir, hdata, hdir, hpath, hstored⟩ := hw.store s hs
    refine ⟨hw.configuration, fun s' hs' => ?_, hw.counters, fun dir' d' bytes hdata' hmade hfile =>
      ⟨rfl, (hw.file dir' d' bytes hdata' hmade hfile).values⟩⟩
    obtain rfl := Option.some.inj hs'
    exact ⟨dir, hdata, hdir, hpath, fun entry hentry => (hvalues entry hentry).elim
      (fun hkept => hstored entry hkept) id⟩
  written w s d hw hs hwrite := by
    obtain ⟨dir, hdata, hdir, hpath, hstored⟩ := hw.store s hs
    refine hw.written hdata hdir hwrite fun bytes hread => ?_
    rw [← hpath, Disk.read_write hwrite] at hread
    obtain rfl := Except.ok.inj hread
    exact ⟨by rw [hs]; rfl, s.values, rfl, hstored⟩
  defaults entry hentry := by
    simp only [Store.defaults, List.mem_cons, List.not_mem_nil, or_false] at hentry
    rcases hentry with rfl | rfl | rfl
    · exact hplain _ (.text "")
    · exact hplain _ (.text "")
    · exact hplain _ (.texts [])

/-- A service goes on to hold such values, as long as what it is to store is one of them. -/
theorem serves (hplain : ∀ j : Json, j.Plain → V j) :
    Serves (Only (World.Stocked c V)) (Only (WithStore (World.Stocked c V))) V := by
  refine (steady hplain).serves (fun w p hw hp => ?_) (fun w p bytes d hw hp hwrite => ?_)
    fun w today hw => ⟨hw.configuration, hw.store, hw.counters, hw.file⟩
  · obtain ⟨dir, hdata, hdir, rfl⟩ := hw.counters p hp
    rw [parent_usageFilename, Disk.makeDirectories_of_isDirectory hdir]
    exact hw
  · obtain ⟨dir, hdata, hdir, rfl⟩ := hw.counters p hp
    refine hw.written hdata hdir hwrite fun bytes' hread => hw.inFile hdata hdir ?_
    have hother : (d.read (dir.child Store.filename)).toOption =
        (w.disk.read (dir.child Store.filename)).toOption :=
      Disk.read_touches (Disk.write_touches (by decide) (child_usageFilename dir ▸ hwrite)) hdir
        (by decide) (by decide)
    rw [hread] at hother
    exact eq_ok_of_toOption hother.symm

/-- What frames leave behind holds such values, if all that they have stored are such. -/
theorem after (hplain : ∀ j : Json, j.Plain → V j) (h : w.Stocked c V) {frames : List String}
    (hf : ∀ frame ∈ frames, Channel.Carries V (Channel.message frame)) :
    (after w frames).Stocked c V :=
  ((serves hplain).connection hf w w ⟨rfl, h⟩).2.2

end World.Stocked

end FormulaOcr
