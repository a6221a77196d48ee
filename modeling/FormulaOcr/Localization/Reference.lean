import FormulaOcr.Json.Display
import FormulaOcr.Localization.Layout

/-! References: the name of a value, and the way from it to a part of it through attributes and
items. -/

namespace FormulaOcr.Localization

inductive ReferenceFault
  | tooManyDigits
  | emptyPart
  | noBracket
  | strayPart
  | unnamed (index : Nat)
  | unknownName (name : String)
  | unknownNumber (n : Nat)
  | noAttribute (owner name : String)
  | noItems (owner : String)
  | noIndex (kind : String)
  | pastEnd (kind : String)
deriving DecidableEq, Repr

/-- What messages call a sequence, and what they say it must be asked with. -/
def sequenceWords (kind : String) : String × String :=
  if kind = "str" then ("string", "integers, not 'str'") else (kind, "integers or slices, not str")

def ReferenceFault.message : ReferenceFault → String
  | .tooManyDigits => "Too many decimal digits in format string"
  | .emptyPart => "Empty attribute in format string"
  | .noBracket => "Missing ']' in format string"
  | .strayPart => "Only '.' or '[' may follow ']' in format field specifier"
  | .unnamed index => s!"Replacement index {index} out of range for positional args tuple"
  | .unknownName name => Json.quotedString name
  | .unknownNumber n => s!"{n}"
  | .noAttribute owner name => s!"{owner} has no attribute '{name}'"
  | .noItems owner => s!"{owner} is not subscriptable"
  | .noIndex kind => s!"{(sequenceWords kind).1} indices must be {(sequenceWords kind).2}"
  | .pastEnd kind => s!"{(sequenceWords kind).1} index out of range"

/-- A step from a value to a part of it, or the fault that ends the way. -/
inductive Step
  | named (name : List Char)
  | item (key : List Char)
  | fault (f : ReferenceFault)

/-- Where a reader of steps is: in front of one, in a name or in a key, newest character first. -/
inductive Place
  | front
  | name (held : List Char)
  | key (held : List Char)

/-- The step that ends here. A part must have a character at least. -/
def closed (make : List Char → Step) (held : List Char) : Step :=
  if held.isEmpty then .fault .emptyPart else make held.reverse

/-- The steps that a text spells. -/
def steps : Place → List Char → List Step
  | .front, [] => []
  | .front, c :: rest =>
    if c = '.' then steps (.name []) rest
    else if c = '[' then steps (.key []) rest
    else [.fault .strayPart]
  | .name held, [] => [closed .named held]
  | .name held, c :: rest =>
    if c = '.' then closed .named held :: steps (.name []) rest
    else if c = '[' then closed .named held :: steps (.key []) rest
    else steps (.name (c :: held)) rest
  | .key _, [] => [.fault .noBracket]
  | .key held, c :: rest =>
    if c = ']' then closed .item held :: steps .front rest else steps (.key (c :: held)) rest

/-- The number that a text of digits spells, if it is one. -/
def index? (t : List Char) : Except ReferenceFault (Option Nat) :=
  match takeNumber 0 t with
  | none => .error .tooManyDigits
  | some (n, []) => .ok (if t.isEmpty then none else some n)
  | some (_, _ :: _) => .ok none

/-- What a reference leads to: a value, or the class of one. -/
inductive Subject
  | value (j : Json)
  | ofClass (name : String)

namespace Subject

/-- A subject as it stands in a message. -/
def display : Subject → String
  | .value j => j.display
  | .ofClass name => s!"<class '{name}'>"

/-- A subject as it stands inside a list. -/
def literal : Subject → List Char
  | .value j => j.literal
  | .ofClass name => (Subject.ofClass name).display.toList

def kind : Subject → String
  | .value j => j.kind
  | .ofClass _ => "type"

/-- The whole number that a truth value or a whole number is. -/
def whole? : Subject → Option Int
  | .value (.int n) => some n
  | .value (.bool b) => some (if b then 1 else 0)
  | _ => none

/-- The parts of a number, seen as a fraction and as a complex number. -/
def numberPart? (s : Subject) (name : String) : Option Json :=
  match s, s.whole?, name with
  | _, some n, "real" => some (.int n)
  | _, some _, "imag" => some (.int 0)
  | _, some n, "numerator" => some (.int n)
  | _, some _, "denominator" => some (.int 1)
  | .value (.float x), _, "real" => some (.float x)
  | .value (.float _), _, "imag" => some (.float .zero)
  | _, _, _ => none

/-- Every value tells its class, a class its name, and a number its parts. -/
def part (s : Subject) (name : String) : Except ReferenceFault Subject :=
  if name = "__class__" then .ok (.ofClass s.kind)
  else match s with
    | .ofClass own =>
      if name = "__name__" || name = "__qualname__" then .ok (.value (.str own))
      else if name = "__module__" then .ok (.value (.str "builtins"))
      else .error (.noAttribute s!"type object '{own}'" name)
    | .value j =>
      match s.numberPart? name with
      | some number => .ok (.value number)
      | none => .error (.noAttribute s!"'{j.kind}' object" name)

/-- The member of an object under a key, or the item of a list or the character of a text at a
number. -/
def item (s : Subject) (key : List Char) : Except ReferenceFault Subject := do
  let index ← index? key
  match s, index with
  | .ofClass own, _ => throw (.noItems s!"type '{own}'")
  | .value (.obj _), some n => throw (.unknownNumber n)
  | .value (.obj members), none =>
    match Dictionary.find? members (.ofList key) with
    | some found => return .value found
    | none => throw (.unknownName (.ofList key))
  | .value (.arr items), some n =>
    match items[n]? with
    | some found => return .value found
    | none => throw (.pastEnd "list")
  | .value (.str text), some n =>
    match text.toList[n]? with
    | some c => return .value (.str (.singleton c))
    | none => throw (.pastEnd "str")
  | .value (.arr _), none => throw (.noIndex "list")
  | .value (.str _), none => throw (.noIndex "str")
  | .value other, _ => throw (.noItems s!"'{other.kind}' object")

/-- What is at the end of some steps. -/
def follow (s : Subject) : List Step → Except ReferenceFault Subject
  | [] => .ok s
  | .named name :: steps => do (← s.part (.ofList name)).follow steps
  | .item key :: steps => do (← s.item key).follow steps
  | .fault f :: _ => .error f

/-- A subject laid out in a style. An empty style asks for nothing. -/
def styled (s : Subject) (style : List Char) : Except StyleFault (List Char) :=
  if style.isEmpty then .ok s.display.toList
  else match s, s.whole? with
    | _, some n => do (← Style.read s.kind .right (some 'd') style).layWhole s.kind n
    | .value (.float x), _ => do (← Style.read s.kind .right none style).layReal s.kind x
    | .value (.str text), _ => do
      let read ← Style.read s.kind .left (some 's') style
      match read.letter with
      | some 's' => read.layText text.toList
      | letter => throw (.unknownLetter (letter.getD 's') s.kind)
    | _, _ => .error (.unsupported s.kind)

end Subject

/-- The value that a reference names. A reference without a name, or with a number for one, asks for
a value by its place, and there is none. -/
def resolve (values : Dictionary Json) (reference : List Char) : Except ReferenceFault Subject := do
  let inName (c : Char) : Bool := c != '.' && c != '['
  let name := reference.takeWhile inName
  match ← index? name with
  | some n => throw (.unnamed n)
  | none =>
    if name.isEmpty then throw (.unnamed 0)
    else match Dictionary.find? values (.ofList name) with
      | some value => (Subject.value value).follow (steps .front (reference.dropWhile inName))
      | none => throw (.unknownName (.ofList name))

end FormulaOcr.Localization
