import FormulaOcr.Provider

/-! The models that SimpleTex offers. -/

namespace FormulaOcr.SimpleTex

structure Model where
  id : String
  freePerDay : Nat
  mode : Mode
deriving DecidableEq, Repr

/-- The general model switches between formulas and documents. -/
def Model.modes (m : Model) : List Mode :=
  match m.mode with
  | .document => [.formula, .ocr, .document]
  | mode => [mode]

/-- The name of a model in the user's language. -/
def Model.name (m : Model) : Action String :=
  Action.wording ("models.simpletex." ++ m.id)

def standardModel : Model := ⟨"latex_ocr", 500, .formula⟩

def turboModel : Model := ⟨"latex_ocr_turbo", 2000, .formula⟩

def generalModel : Model := ⟨"simpletex_ocr", 50, .document⟩

def models : List Model := [standardModel, turboModel, generalModel]

def findModel? (id : String) : Option Model :=
  models.find? (·.id = id)

/-- The name that a model is shown under: its own id if it is not in the table. -/
def displayName (id : String) : Action String :=
  match findModel? id with
  | some model => model.name
  | none => return id

/-- The recognition mode that an upload asks for. Only the general model knows two. -/
def uploadMode (id : String) (mode : Mode) : Option String :=
  if id = generalModel.id then some (if mode = .formula then "formula" else "document") else none

end FormulaOcr.SimpleTex
