import FormulaOcr.Encoding.Base64
import FormulaOcr.Exchange
import FormulaOcr.Json.Writer
import FormulaOcr.Text.Blank

/-! What an answer of SimpleTex says, and the pictures that it is asked about. -/

namespace FormulaOcr.SimpleTex

def unauthorized : String := "req_unauthorized"

def noValidResource : String := "resource_no_valid"

/-- The places at which an error code can stand; the first one that holds a text counts. -/
def errorPaths : List (List String) :=
  [["res", "errType"], ["err_info", "err_type"], ["errType"]]

def errorCode? (payload : Json) : Option String :=
  payload.firstText? errorPaths

def complaintFor (code : String) : Complaint :=
  if code = unauthorized then .tokenUnauthorized
  else if code = noValidResource then .quotaExhausted
  else .recognitionFailed code

/-- The data of a picture without what a data address puts in front of it. -/
def imageData (image : String) : String :=
  String.ofList (Text.afterLast ',' image.toList)

/-- The bytes of a picture, given in base64 or as a data address. -/
def decodeImage (image : String) : Except Complaint Bytes :=
  let data := Text.trim (imageData image).toList
  if data.isEmpty then .error .imageMissing
  else (Encoding.Base64.decode data).mapError fun f => .imageUndecodable f.message

/-- The first member among these that is a text. -/
def firstMember? (members : Dictionary Json) (names : List String) : Option String :=
  names.findSome? fun name => (members.find? name).bind Json.text?

/-- The text in the information part of a result: the part itself, its Markdown or its plain text,
or the whole part as JSON. -/
def informationText? (members : Dictionary Json) : Option String :=
  match members.find? "info" with
  | some (.str text) => some text
  | some (.obj info) =>
    match firstMember? info ["markdown", "text"] with
    | some text => some text
    | none => some (String.ofList (Json.write Json.oneLine (.obj info)))
  | _ => none

/-- The recognised text in a result; empty if it holds none. -/
def resultText : Json → String
  | .obj members =>
    match informationText? members with
    | some text => text
    | none => (firstMember? members ["markdown", "latex"]).getD ""
  | _ => ""

/-- How sure the service is of a result. -/
def confidence (result : Json) : Except Problem Binary64 :=
  match result.member? "conf" with
  | some (.int n) =>
    match Binary64.ofInt n with
    | .infinity _ => .error (.crash .numberTooLarge)
    | x => .ok x
  | some (.float x) => .ok x
  | some (.bool b) => .ok (.ofInt (if b then 1 else 0))
  | _ => .ok .zero

/-- What is wrong with a response outside the range of success. -/
def refusal (response : Response) : Complaint :=
  if response.status = 401 then complaintFor unauthorized
  else match response.json?.bind errorCode? with
    | some code =>
      if code = unauthorized || code = noValidResource then complaintFor code
      else .uploadRefused response.status
    | none => .uploadRefused response.status

/-- The text that an answer to an upload holds, and how sure the service is of it. -/
def reading (response : Response) : Except Problem (String × Binary64) := do
  if !response.isSuccess then throw (.complaint (refusal response))
  let payload ← response.json
  match payload with
  | .obj _ =>
    if !(payload.member "status").isTrue then
      let code := (errorCode? payload).getD ""
      throw (.complaint (complaintFor (if code = "" then "unknown" else code)))
    let result := (payload.member "res").orElse (.obj [])
    let confidence ← confidence result
    return (resultText result, confidence)
  | other => throw (.complaint (.badResponse other.kind))

end FormulaOcr.SimpleTex
