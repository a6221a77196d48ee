import FormulaOcr.Exchange
import FormulaOcr.Text.Blank
import FormulaOcr.Text.Search
import FormulaOcr.Text.Uppercase

/-! What SiliconFlow is asked, and what its answers say. -/

namespace FormulaOcr.SiliconFlow

/-- The longest answer that is asked for. -/
def maxTokens : Nat := 4096

/-- A question about one picture. -/
def chatBody (modelId imageUrl prompt : String) : Json :=
  let image : Json := .obj [("url", .str imageUrl), ("detail", .str "high")]
  let content : List Json :=
    [.obj [("type", .str "image_url"), ("image_url", image)],
     .obj [("type", .str "text"), ("text", .str prompt)]]
  .obj
    [("model", .str modelId),
     ("messages", .arr [.obj [("role", .str "user"), ("content", .arr content)]]),
     ("max_tokens", .int maxTokens)]

/-- The places at which an error message can stand. -/
def messagePaths : List (List String) :=
  [["message"], ["error", "message"]]

/-- The words by which a message says that the picture is too small. -/
def tooSmallWords : List String :=
  ["height", "width", "must be larger"]

def saysTooSmall (message : String) : Bool :=
  let lowered := Text.lowercase message.toList
  tooSmallWords.all fun word => Text.occurs word.toList lowered

/-- What is wrong with a response outside the range of success. -/
def refusal (response : Response) : Complaint :=
  let kind : FailureKind := if response.status = 401 then .auth else .provider
  match (response.json?.getD .null).firstText? messagePaths with
  | some message =>
    if message = "" then .callRefused kind response.status
    else if saysTooSmall message then .imageTooSmall
    else .callRefusedBecause kind message
  | none => .callRefused kind response.status

/-- The JSON value of a successful response. -/
def payload (response : Response) : Except Problem Json :=
  if response.isSuccess then response.json else .error (.complaint (refusal response))

/-- The text of the first choice in an answer, without blanks at its ends; empty if there is
none. -/
def content (payload : Json) : String :=
  let first := match payload.member "choices" with
    | .arr (choice :: _) => choice
    | _ => .obj []
  match first.follow ["message", "content"] with
  | .str text => Text.trimmed text
  | _ => ""

/-- The answer to a question about a picture. -/
def reading (response : Response) : Except Problem String :=
  (payload response).map content

/-- The ids in a list of models. A list that says nothing is empty; one that is no collection is
not expected. -/
def modelIds (payload : Json) : Except Problem (List String) :=
  let data := payload.member "data"
  let id? (entry : Json) : Option String := (entry.member "id").text?
  if !data.isTruthy then .ok []
  else match data with
    | .arr entries => .ok (entries.filterMap id?)
    | .str _ | .obj _ => .ok []
    | other => .error (.crash (.notIterable other.kind))

def listing (response : Response) : Except Problem (List String) := do
  modelIds (← payload response)

end FormulaOcr.SiliconFlow
