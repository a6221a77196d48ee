import FormulaOcr.Complaint

/-! What a picture is recognised as. -/

namespace FormulaOcr

inductive Mode
  | formula
  | ocr
  | document
deriving DecidableEq, Repr

namespace Mode

def name : Mode → String
  | .formula => "formula"
  | .ocr => "ocr"
  | .document => "document"

def all : List Mode := [.formula, .ocr, .document]

def ofName? (name : String) : Option Mode :=
  all.find? (·.name = name)

/-- The mode that a value names. -/
def parse (raw : Json) : Except Complaint Mode :=
  match raw.text?.bind ofName? with
  | some mode => .ok mode
  | none => .error (.unknownMode raw)

def names (modes : List Mode) : Json :=
  .texts (modes.map name)

end Mode

end FormulaOcr
