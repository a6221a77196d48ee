import FormulaOcr.Proofs.Session.Steady

/-! What a service leaves alone as long as it does not count: the file of its counters, and the
translator that it speaks with. -/

namespace FormulaOcr

open FormulaOcr.Localization

namespace Disk

variable {d d' : Disk}

/-- The directory of a file is there, or the path leads straight to where no file is. -/
def Placed (d : Disk) (p : Path) : Prop :=
  d.isDirectory (Action.parent p) = true ∨
    ".." ∉ p.steps ∧ ∀ content, d.at? p.steps ≠ some (.file content)

/-- Such a file is left alone when files of other names are written. -/
theorem Placed.touches {names : List String} (h : d.Touches names d') {root name : String}
    {steps : List String} (hdots : name ≠ "..") (hname : name ∉ names)
    (hp : d.Placed ⟨root, steps ++ [name]⟩) :
    d'.Placed ⟨root, steps ++ [name]⟩ ∧
      (d'.read ⟨root, steps ++ [name]⟩).toOption = (d.read ⟨root, steps ++ [name]⟩).toOption := by
  have hparent : Action.parent ⟨root, steps ++ [name]⟩ = ⟨root, steps⟩ := by
    rw [Action.parent, List.dropLast_concat]
  unfold Placed at hp ⊢
  rw [hparent] at hp ⊢
  rcases hp with hdir | ⟨hplain, hfile⟩
  · exact ⟨.inl (isDirectory_keeps h.keeps hdir), read_touches h hdir hdots hname⟩
  · have hother : ∀ other ∈ names, (steps ++ [name]).getLast? ≠ some other := by
      intro other hmem hlast
      rw [List.getLast?_concat] at hlast
      exact hname (Option.some.inj hlast ▸ hmem)
    have hfile' := h.noFile hother hfile
    refine ⟨.inr ⟨hplain, hfile'⟩, ?_⟩
    rw [read_of_plain hplain hfile, read_of_plain hplain hfile']

end Disk

/-- Counters are what the bytes of their file say. -/
theorem Usage.inFile_congr {d d' : Disk} {p : Path}
    (h : (d'.read p).toOption = (d.read p).toOption) : inFile d' p = inFile d p := by
  rw [inFile, inFile, Action.contentOf_congr h]

open FormulaOcr.Action

/-- The process speaks with a translator and will go on to do so: it keeps it, or it will load it
from tables that are not among the state files. -/
structure World.Speaks (w : World) (t : Translator) : Prop where
  translator : w.translator = .ok t
  lasting : (w.translators.lookup w.configuration.language).isSome = true ∨
    Settled stateFiles w.disk "en" ∧ Settled stateFiles w.disk w.configuration.language

namespace World.Speaks

variable {w : World} {t : Translator}

theorem spoken (h : w.Speaks t) : w.spoken.Speaks t := by
  refine ⟨(translator_spoken w).trans h.translator, ?_⟩
  unfold World.spoken
  rw [h.translator]
  cases hlookup : w.translators.lookup w.configuration.language with
  | none =>
    left
    dsimp only
    rw [lookup_append_self _ hlookup]
    rfl
  | some kept => exact h.lasting

theorem touches (h : w.Speaks t) {d : Disk} (hd : w.disk.Touches stateFiles d) :
    World.Speaks { w with disk := d } t := by
  have htranslator := h.translator
  rcases h.lasting with hkept | ⟨henglish, hlanguage⟩
  · refine ⟨?_, .inl hkept⟩
    obtain ⟨kept, hlookup⟩ := Option.isSome_iff_exists.1 hkept
    unfold World.translator at htranslator ⊢
    rw [hlookup] at htranslator ⊢
    exact htranslator
  · refine ⟨?_, .inr ⟨henglish.touches hd, hlanguage.touches hd⟩⟩
    unfold World.translator at htranslator ⊢
    dsimp only at htranslator ⊢
    rw [load_touches hd henglish hlanguage]
    exact htranslator

end World.Speaks

/-- The counters lie in a file of the given bytes, on a day, and the process speaks with a
translator. -/
structure Holding (t : Translator) (p : Path) (bytes : Option Bytes) (day : String) (w : World) :
    Prop where
  path : w.counterPath = some p
  name : ∃ dir : Path, p = dir.child Usage.filename
  day : w.today = day
  placed : w.disk.Placed p
  content : (w.disk.read p).toOption = bytes
  store : ∀ s, w.store = some s → ∃ dir : Path, s.path = dir.child Store.filename
  speaks : w.Speaks t

namespace Holding

variable {t : Translator} {p : Path} {bytes : Option Bytes} {day : String} {w : World}

/-- Other files than that of the counters can be written. -/
theorem touches (h : Holding t p bytes day w) {names : List String}
    (hnames : names ⊆ [Store.filename]) {d : Disk} (hd : w.disk.Touches names d) :
    Holding t p bytes day { w with disk := d } := by
  obtain ⟨dir, rfl⟩ := h.name
  have hplaced := h.placed
  have hcontent := h.content
  rw [child_usageFilename] at hplaced hcontent
  have hname : Usage.filename ∉ [Store.filename] := by decide
  obtain ⟨hplaced', hread⟩ := hplaced.touches (hd.mono hnames) (by decide) hname
  have hstate : [Store.filename] ⊆ stateFiles := by decide
  refine ⟨h.path, h.name, h.day, ?_, ?_, h.store,
    h.speaks.touches ((hd.mono hnames).mono hstate)⟩
  · rw [child_usageFilename]
    exact hplaced'
  · rw [child_usageFilename]
    exact hread.trans hcontent

/-- A service that does not count leaves the file of the counters alone. -/
theorem steady : Steady (Holding t p bytes day) fun _ => True where
  spoken w hw := by
    have hspeaks := hw.speaks.spoken
    obtain ⟨kept, hspoken⟩ := World.spoken_eq w
    rw [hspoken] at hspeaks ⊢
    exact ⟨hw.path, hw.name, hw.day, hw.placed, hw.content, hw.store, hspeaks⟩
  called w network calls hw := ⟨hw.path, hw.name, hw.day, hw.placed, hw.content, hw.store,
    hw.speaks.translator, hw.speaks.lasting⟩
  opened w opened hw := ⟨hw.path, hw.name, hw.day, hw.placed, hw.content, hw.store,
    hw.speaks.translator, hw.speaks.lasting⟩
  made w dir hw _ :=
    hw.touches (List.nil_subset _) ((Disk.grows_makeDirectories w.disk dir).touches [])
  remade w s hw _ :=
    hw.touches (List.nil_subset _) ((Disk.grows_makeDirectories w.disk _).touches [])
  tracked w dir hw _ _ hnone := by
    rw [hw.path] at hnone
    exact nomatch hnone
  loaded w dir hw _ _ _ := by
    refine ⟨hw.path, hw.name, hw.day, hw.placed, hw.content, fun s hs => ⟨dir, ?_⟩,
      hw.speaks.translator, hw.speaks.lasting⟩
    rw [← Option.some.inj hs]
  changed w s values hw hs _ := by
    refine ⟨hw.path, hw.name, hw.day, hw.placed, hw.content, fun s' hs' => ?_,
      hw.speaks.translator, hw.speaks.lasting⟩
    rw [← Option.some.inj hs']
    exact hw.store s hs
  written w s d hw hs hwrite := by
    obtain ⟨dir, hdir⟩ := hw.store s hs
    rw [hdir, child_storeFilename] at hwrite
    exact hw.touches (List.Subset.refl _) (Disk.write_touches (by decide) hwrite)
  defaults _ _ := trivial

end Holding

end FormulaOcr
