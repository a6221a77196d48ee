import FormulaOcr.SimpleTex.Answer
import FormulaOcr.SimpleTex.Model

/-! Uploading pictures to SimpleTex. -/

namespace FormulaOcr.SimpleTex

/-- Sends a picture to a model. An empty mode asks for none. -/
def upload (token : Json) (bytes : Bytes) (modelId : String) (mode : Option String)
    (filename : String) : Action Response :=
  Provider.simpletex.send .post modelId token []
    (.upload { mode := mode.filter (· != ""), filename, bytes })

/-- Recognises a picture: its text, and how sure the service is of it. -/
def recognize (token : Json) (image modelId : String) (mode : Option String) :
    Action (String × Binary64) := do
  let bytes ← Action.ofComplaint (decodeImage image)
  let response ← upload token bytes modelId mode "image.png"
  Action.ofProblem (reading response)

/-- A small picture of a black square, in base64. -/
def testImage : String :=
  "iVBORw0KGgoAAAANSUhEUgAAADIAAAAyCAIAAACRXR/mAAAASklEQVR4nO3OsQ3A" ++
  "IBAAsd9/abIAzSkFCNkTeNaV5nRgT6vQKrQKrUKr0CqeaM0/WlpaWlpaWlpaWlpa" ++
  "R2gVWoVWoVVoFVrFpa0PK6QKSH2kFl4AAAAASUVORK5CYII="

/-- Uploads the test picture to the model with the largest free quota. -/
def uploadTestImage (token : Json) : Action Response :=
  upload token ((Encoding.Base64.decode testImage.toList).toOption.getD []) turboModel.id none
    "test.png"

end FormulaOcr.SimpleTex
