import FormulaOcr.Fault
import FormulaOcr.Rest.Body

/-! Requests to the web surface, and its answers. -/

namespace FormulaOcr.Rest

/-- A request to the host that the client knows the service by. -/
structure Request where
  host : String
  method : String
  path : String
  body : String := ""
  headers : Dictionary String := []

/-- A header of a request; the case of its name does not matter. -/
def Request.header? (r : Request) (name : String) : Option String :=
  (List.find? (fun header => header.1.toList.map Char.toLower == name.toList) r.headers).map (·.2)

inductive Content
  | empty
  | text (s : String)
  | json (j : Json)

/-- An answer, with the crash that caused it if there was one. -/
structure Answer where
  status : Int
  content : Content
  headers : Dictionary String := []
  crash : Option Crash := none

namespace Answer

def detail (status : Int) (text : String) (headers : Dictionary String := []) : Answer :=
  { status, content := .json (.obj [("detail", .str text)]), headers }

def notFound : Answer := detail 404 "Not Found"

def methodNotAllowed (allowed : String) : Answer :=
  detail 405 "Method Not Allowed" [("allow", allowed)]

def redirect (location : String) : Answer :=
  { status := 307, content := .empty, headers := [("location", location)] }

def ofFault : Fault → Answer
  | .failure f =>
    { status := f.complaint.kind.status
      content := .json <| .obj
        [("detail", .str f.message), ("error_type", .str f.complaint.kind.label)] }
  | .crash c => { status := 500, content := .text "Internal Server Error", crash := some c }

/-- The answer to a body that was turned down. What was found in it is part of the answer, which
cannot be given if that has no spelling. -/
def ofRefusal : BodyRefusal → Answer
  | .issues list =>
    match list.findSome? (·.found.irregular?) with
    | some x => ofFault (.crash (.irregularNumber x))
    | none => { status := 422, content := .json (.obj [("detail", .arr (list.map Issue.toJson))]) }
  | .unreadable => detail 400 "There was an error parsing the body"

end Answer

end FormulaOcr.Rest
