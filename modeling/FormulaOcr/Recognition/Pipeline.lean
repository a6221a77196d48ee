import FormulaOcr.Recognition.Prompt
import FormulaOcr.Recognition.Result
import FormulaOcr.Recognition.Selection
import FormulaOcr.SiliconFlow.Service
import FormulaOcr.SimpleTex.Service
import FormulaOcr.Usage

/-! Recognising a picture: the provider is chosen, the picture is transcribed, and a formula that
SiliconFlow transcribed is checked by the same model. The check can only improve the result: if it
fails, the transcription stands unconfirmed. -/

namespace FormulaOcr.Recognition

structure Request where
  image : String
  mode : Mode
  selector : String

/-- The credentials that requests are served with; an empty one is none. -/
structure Credentials where
  token : String
  key : String

/-- Has a transcription checked against the picture. -/
def verify (key imageUrl modelId primary : String) : Action Result := do
  let check := SiliconFlow.ask (.str key) imageUrl modelId (verificationPrompt primary)
  match ← Action.attempt check with
  | .ok secondary => return reconcile primary secondary modelId
  | .error _ => return reconcile primary "" modelId

def withSimpleTex (token image : String) (mode : Mode) (modelId : String) : Action Result := do
  if token = "" then Action.complain .tokenNotConfigured
  let (text, _) ← SimpleTex.recognize (.str token) image modelId (SimpleTex.uploadMode modelId mode)
  Action.countRecognition modelId
  let name ← SimpleTex.displayName modelId
  return { text, model := ← Action.wording "recognition.simpletex_label" [("name", .str name)] }

def withSiliconFlow (key image : String) (mode : Mode) (modelId : String) : Action Result := do
  if key = "" then Action.complain .keyNotConfigured
  let imageUrl := SiliconFlow.imageUrl image
  let primary ← SiliconFlow.ask (.str key) imageUrl modelId (prompt mode)
  if primary = "" then return { text := "", model := modelId, verified := some false }
  else if mode = .formula then verify key imageUrl modelId primary
  else return { text := primary, model := modelId }

def recognize (request : Request) (credentials : Credentials) : Action Result := do
  let selection ← Action.ofComplaint
    (select request.selector request.mode (credentials.token != ""))
  if selection.modelId = "" then Action.complain .noModelSelected
  match selection.provider with
  | .simpletex => withSimpleTex credentials.token request.image request.mode selection.modelId
  | .siliconflow => withSiliconFlow credentials.key request.image request.mode selection.modelId

end FormulaOcr.Recognition
