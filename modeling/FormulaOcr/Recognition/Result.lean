import FormulaOcr.Json.Value
import FormulaOcr.Recognition.Canonical

/-! Results of recognition, and how a transcription and its check make one. -/

namespace FormulaOcr.Recognition

/-- The recognised text and the model that gave it. For formulas that were checked: whether the
check confirmed the text, whether it changed it, and the text before the change. -/
structure Result where
  text : String
  model : String
  verified : Option Bool := none
  corrected : Option Bool := none
  original : Option String := none
deriving DecidableEq, Repr

/-- What is not known is left out. -/
def Result.toJson (r : Result) : Json :=
  .obj <|
    [("text", .str r.text), ("model", .str r.model)] ++
    (r.verified.map fun b => ("verified", Json.bool b)).toList ++
    (r.corrected.map fun b => ("corrected", Json.bool b)).toList ++
    (r.original.map fun s => ("original_text", Json.str s)).toList

/-- A transcription and its check: an empty check says nothing, one that differs in white space
alone confirms, and any other one corrects. -/
def reconcile (primary secondary model : String) : Result :=
  if secondary = "" then { text := primary, model, verified := some false }
  else if normalize primary = normalize secondary then
    { text := primary, model, verified := some true, corrected := some false }
  else
    { text := secondary, model, verified := some false, corrected := some true,
      original := some primary }

end FormulaOcr.Recognition
