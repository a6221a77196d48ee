import FormulaOcr.Exchange

/-! Checking the bodies of requests. -/

namespace FormulaOcr.Rest

/-- A member of a request body that holds a text: whether it must be there, whether it may be null,
and the value that it has when it is absent. -/
structure Field where
  name : String
  required : Bool
  nullable : Bool
  default : Json

namespace Field

def mandatory (name : String) : Field := ⟨name, true, false, .null⟩

def optional (name : String) : Field := ⟨name, false, true, .null⟩

def withDefault (name text : String) : Field := ⟨name, false, false, .str text⟩

end Field

/-- Something wrong with a body: where, in words, by its kind, and what was found there or around
it. -/
structure Issue where
  place : List Json
  message : String
  kind : String
  found : Json

def Issue.toJson (i : Issue) : Json :=
  .obj [("loc", .arr i.place), ("msg", .str i.message), ("type", .str i.kind)]

namespace Issue

def missing (place : List Json) (around : Json) : Issue :=
  ⟨place, "Field required", "missing", around⟩

def notText (place : List Json) (found : Json) : Issue :=
  ⟨place, "Input should be a valid string", "string_type", found⟩

def notObject (place : List Json) (found : Json) : Issue :=
  ⟨place, "Input should be a valid dictionary or object to extract fields from",
    "model_attributes_type", found⟩

def notJson (place : List Json) : Issue :=
  ⟨place, "JSON decode error", "json_invalid", .null⟩

end Issue

/-- Why a body was turned down. -/
inductive BodyRefusal
  | issues (list : List Issue)
  | unreadable

/-- The value of a field in a body. -/
def fieldValue (body : Json) (f : Field) : Except Issue Json :=
  let place : List Json := [.str "body", .str f.name]
  match body.member? f.name with
  | none => if f.required then .error (.missing place body) else .ok f.default
  | some (.str s) => .ok (.str s)
  | some .null => if f.nullable then .ok .null else .error (.notText place .null)
  | some found => .error (.notText place found)

/-- The values of all fields, or everything that is wrong with any of them. -/
def fieldValues (body : Json) : List Field → Except (List Issue) (Dictionary Json)
  | [] => .ok []
  | f :: fields =>
    match fieldValue body f, fieldValues body fields with
    | .ok value, .ok rest => .ok ((f.name, value) :: rest)
    | .ok _, .error issues => .error issues
    | .error issue, .ok _ => .error [issue]
    | .error issue, .error issues => .error (issue :: issues)

/-- The values of the fields in the body of a request. -/
def checkBody (fields : List Field) (text : String) : Except BodyRefusal (Dictionary Json) :=
  if text = "" then .error (.issues [.missing [.str "body"] .null])
  else match Response.jsonOfBytes (Encoding.Utf8.encodeString text) with
    | .error (.json e) => .error (.issues [.notJson [.str "body", .int e.position]])
    | .error (.encoding _) => .error .unreadable
    | .ok (.obj members) => (fieldValues (.obj members) fields).mapError .issues
    | .ok found => .error (.issues [.notObject [.str "body"] found])

end FormulaOcr.Rest
