import FormulaOcr.Complaint
import FormulaOcr.Encoding.Detect

/-! What is sent to a web server and what comes back. -/

namespace FormulaOcr

inductive Verb
  | get
  | post
deriving DecidableEq, Repr

def Verb.name : Verb → String
  | .get => "GET"
  | .post => "POST"

/-- A picture on its way to a server, with the recognition mode that is asked for. -/
structure Upload where
  mode : Option String
  filename : String
  bytes : Bytes

inductive Payload
  | nothing
  | query (parameters : List (String × String))
  | json (body : Json)
  | upload (u : Upload)

/-- A request: where it goes, how long it may take, its headers if it has any of its own, and what
it carries. -/
structure Call where
  verb : Verb
  url : String
  timeout : Binary64
  headers : Option (List (String × Json))
  payload : Payload

structure Response where
  status : Int
  body : Bytes
deriving DecidableEq, Repr

inductive Outcome
  | response (r : Response)
  | interrupted (i : Interruption)

namespace Response

def isSuccess (r : Response) : Bool :=
  200 ≤ r.status && r.status < 300

/-- Why the body of a response is no JSON. -/
inductive BodyFault
  | encoding (f : Encoding.Fault)
  | json (e : Json.ReadError)

def BodyFault.message : BodyFault → String
  | .encoding f => f.message
  | .json e => e.message

/-- The JSON value of some bytes in any Unicode encoding. -/
def jsonOfBytes (bytes : Bytes) : Except BodyFault Json :=
  match Encoding.decodeDetected bytes with
  | .error f => .error (.encoding f)
  | .ok t => (Json.readDecoded t).mapError .json

def json? (r : Response) : Option Json :=
  (jsonOfBytes r.body).toOption

/-- The JSON value of the body; a body that is none is the provider's fault. -/
def json (r : Response) : Except Problem Json :=
  (jsonOfBytes r.body).mapError fun f => .complaint (.badResponse f.message)

def text (r : Response) : List Char :=
  Encoding.Utf8.decodeLossy r.body

end Response

end FormulaOcr
