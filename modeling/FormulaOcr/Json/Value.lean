import FormulaOcr.Dictionary
import FormulaOcr.Number.Binary64

/-! JSON values. Whole numbers and numbers with a fraction or an exponent are kept apart, and an
object remembers the order of its members. -/

namespace FormulaOcr

inductive Json
  | null
  | bool (b : Bool)
  | int (n : Int)
  | float (x : Binary64)
  | str (s : String)
  | arr (items : List Json)
  | obj (members : List (String × Json))
deriving Inhabited

namespace Json

/-- The name under which messages speak of a kind of value. -/
def kind : Json → String
  | .null => "NoneType"
  | .bool _ => "bool"
  | .int _ => "int"
  | .float _ => "float"
  | .str _ => "str"
  | .arr _ => "list"
  | .obj _ => "dict"

/-- Values that say something: not null, false, zero or empty. -/
def isTruthy : Json → Bool
  | .null => false
  | .bool b => b
  | .int n => n != 0
  | .float x => !x.isZero
  | .str s => s != ""
  | .arr items => !items.isEmpty
  | .obj members => !members.isEmpty

/-- The value, or the default for a value that says nothing. -/
def orElse (j default : Json) : Json :=
  if j.isTruthy then j else default

def text? : Json → Option String
  | .str s => some s
  | _ => none

def members? : Json → Option (Dictionary Json)
  | .obj members => some members
  | _ => none

def isTrue : Json → Bool
  | .bool b => b
  | _ => false

/-- A member of an object. -/
def member? (j : Json) (key : String) : Option Json :=
  match j with
  | .obj members => Dictionary.find? members key
  | _ => none

/-- A member of an object, or null. -/
def member (j : Json) (key : String) : Json :=
  (j.member? key).getD .null

/-- The value at the end of a path of member names; null as soon as a step is missing. -/
def follow (j : Json) : List String → Json
  | [] => j
  | key :: path =>
    match j with
    | .obj members => ((Dictionary.find? members key).getD .null).follow path
    | _ => .null

/-- The first string found at any of the paths, in order. -/
def firstText? (j : Json) (paths : List (List String)) : Option String :=
  paths.findSome? fun path => (j.follow path).text?

def ofText? (s : Option String) : Json :=
  s.elim .null .str

def texts (ss : List String) : Json :=
  .arr (ss.map .str)

mutual

/-- The first number in a value that the JSON standard has no spelling for: an infinity, or no
number at all. -/
def irregular? : Json → Option Binary64
  | .float (.finite ..) => none
  | .float x => some x
  | .arr items => irregularItem? items
  | .obj members => irregularMember? members
  | _ => none

def irregularItem? : List Json → Option Binary64
  | [] => none
  | item :: items => (irregular? item).or (irregularItem? items)

def irregularMember? : List (String × Json) → Option Binary64
  | [] => none
  | (_, value) :: members => (irregular? value).or (irregularMember? members)

end

end Json

end FormulaOcr
