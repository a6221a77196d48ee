import FormulaOcr.Provider
import FormulaOcr.SimpleTex.Model

/-! Which provider and which model serve a request. -/

namespace FormulaOcr.Recognition

/-- An explicit choice, or what stands in for one that was not made. -/
inductive Selection
  | explicit (provider : Provider) (modelId : String)
  | fallbackSimpleTex
  | fallbackSiliconFlow
deriving DecidableEq, Repr

namespace Selection

def provider : Selection → Provider
  | .explicit provider _ => provider
  | .fallbackSimpleTex => .simpletex
  | .fallbackSiliconFlow => .siliconflow

/-- The model; empty if none was chosen. -/
def modelId : Selection → String
  | .explicit _ modelId => modelId
  | .fallbackSimpleTex => SimpleTex.standardModel.id
  | .fallbackSiliconFlow => ""

end Selection

/-- A selector names a provider before its first colon and a model behind it. A selector without a
colon chooses nothing: formulas then go to the standard model of SimpleTex if there is a token for
it, and all else to SiliconFlow without a model. -/
def select (selector : String) (mode : Mode) (hasToken : Bool) : Except Complaint Selection :=
  match Text.splitFirst ':' selector.toList with
  | some (name, modelId) =>
    match Provider.ofName? (.ofList name) with
    | some provider => .ok (.explicit provider (.ofList modelId))
    | none => .error (.unknownProvider (.ofList name))
  | none =>
    if hasToken && mode = .formula then .ok .fallbackSimpleTex else .ok .fallbackSiliconFlow

end FormulaOcr.Recognition
