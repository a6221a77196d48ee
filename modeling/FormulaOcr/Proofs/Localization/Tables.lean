import FormulaOcr.Proofs.Disk
import FormulaOcr.Localization.Translator

/-! The tables on the disk that a translator is loaded from. A translator stays what it is as long
as nobody writes to its tables. -/

namespace FormulaOcr.Localization

variable {d d' : Disk} {names : List String}

/-- No file of these names lies where the table for a language is looked for. -/
def Settled (names : List String) (d : Disk) (language : String) : Prop :=
  d.Aside names (directory.child (language ++ ".json"))

theorem Settled.touches {language : String} (h : Settled names d language)
    (ht : d.Touches names d') : Settled names d' language :=
  Disk.Aside.touches h ht

theorem readTable_touches (h : d.Touches names d') {language : String}
    (hs : Settled names d language) :
    readTable d' directory language = readTable d directory language := by
  obtain ⟨hfile, htext⟩ := Disk.Aside.hasFile hs h
  unfold readTable
  dsimp only
  generalize directory.child (language ++ ".json") = path at hfile htext
  rw [hfile]
  cases hhas : d.hasFile path with
  | error f => rfl
  | ok found =>
    cases found with
    | false => rfl
    | true => rw [htext hhas]

/-- A translator is loaded as before when other files are written. -/
theorem load_touches (h : d.Touches names d') {language : String}
    (henglish : Settled names d "en") (hlanguage : Settled names d language) :
    Translator.load d' directory language "en" .null =
      Translator.load d directory language "en" .null := by
  unfold Translator.load
  simp only [readTable_touches h henglish, readTable_touches h hlanguage]

end FormulaOcr.Localization
