import FormulaOcr.Localization.Reference

/-! Message templates. A field in braces stands for a value, and a doubled brace for the brace
itself. A field is a reference, a conversion behind an exclamation mark, and a style behind a colon,
which may have fields of its own. What is filled in is not looked at again. -/

namespace FormulaOcr.Localization

inductive TemplateFault
  | loneOpen
  | loneClose
  | unclosed
  | nestedOpen
  | noConversion
  | noColon
  | unclosedStyle
  | unknownConversion (letter : Char)
  | tooDeep
  | reference (f : ReferenceFault)
  | style (f : StyleFault)
deriving DecidableEq, Repr

def TemplateFault.message : TemplateFault → String
  | .loneOpen => "Single '\x7b' encountered in format string"
  | .loneClose => "Single '\x7d' encountered in format string"
  | .unclosed => "expected '\x7d' before end of string"
  | .nestedOpen => "unexpected '\x7b' in field name"
  | .noConversion => "end of string while looking for conversion specifier"
  | .noColon => "expected ':' after conversion specifier"
  | .unclosedStyle => "unmatched '\x7b' in format spec"
  | .unknownConversion letter => s!"Unknown conversion specifier {shownChar 0x7F letter}"
  | .tooDeep => "Max string recursion exceeded"
  | .reference f => f.message
  | .style f => f.message

/-- A field of a template. -/
structure Field where
  reference : List Char
  conversion : Option Char := none
  style : List Char := []

/-- A piece of a template: a character that stands for itself, a field, or the fault that ends
it. -/
inductive Piece
  | literal (c : Char)
  | field (f : Field)
  | fault (f : TemplateFault)

/-- Where a reader of templates is: outside of fields, in a reference and perhaps in a bracket of
it, behind an exclamation mark, behind the letter of a conversion, or in a style and so many fields
of it. What is held of a field is newest character first. -/
inductive Position
  | outside
  | reference (held : List Char) (bracket : Bool)
  | conversion (reference : List Char)
  | converted (reference : List Char) (letter : Char)
  | style (field : Field) (held : List Char) (depth : Nat)

/-- The pieces of a template. A brace in a bracket belongs to the reference. -/
def pieces : Position → List Char → List Piece
  | .outside, [] => []
  | .outside, '{' :: '{' :: rest => .literal '{' :: pieces .outside rest
  | .outside, '}' :: '}' :: rest => .literal '}' :: pieces .outside rest
  | .outside, ['{'] => [.fault .loneOpen]
  | .outside, '{' :: rest => pieces (.reference [] false) rest
  | .outside, '}' :: _ => [.fault .loneClose]
  | .outside, c :: rest => .literal c :: pieces .outside rest
  | .reference _ _, [] => [.fault .unclosed]
  | .reference held true, c :: rest => pieces (.reference (c :: held) (c != ']')) rest
  | .reference held false, c :: rest =>
    if c = '{' then [.fault .nestedOpen]
    else if c = '}' then .field { reference := held.reverse } :: pieces .outside rest
    else if c = '!' then pieces (.conversion held.reverse) rest
    else if c = ':' then pieces (.style { reference := held.reverse } [] 0) rest
    else pieces (.reference (c :: held) (c == '[')) rest
  | .conversion _, [] => [.fault .noConversion]
  | .conversion reference, c :: rest => pieces (.converted reference c) rest
  | .converted _ _, [] => [.fault .unclosedStyle]
  | .converted reference letter, c :: rest =>
    if c = '}' then .field { reference, conversion := some letter } :: pieces .outside rest
    else if c = ':' then pieces (.style { reference, conversion := some letter } [] 0) rest
    else [.fault .noColon]
  | .style _ _ _, [] => [.fault .unclosedStyle]
  | .style field held depth, c :: rest =>
    if c = '{' then pieces (.style field (c :: held) (depth + 1)) rest
    else if c = '}' then
      match depth with
      | 0 => .field { field with style := held.reverse } :: pieces .outside rest
      | depth + 1 => pieces (.style field (c :: held) depth) rest
    else pieces (.style field (c :: held) depth) rest

/-- The text that a conversion makes of a subject: as in a message, as in a list, or as in a list
and in ASCII alone. The null character asks for none. -/
def convert (s : Subject) : Option Char → Except TemplateFault Subject
  | none => .ok s
  | some '\x00' => .ok s
  | some 's' => .ok (.value (.str s.display))
  | some 'r' => .ok (.value (.str (.ofList s.literal)))
  | some 'a' => .ok (.value (.str (.ofList (Json.inAscii s.literal))))
  | some letter => .error (.unknownConversion letter)

/-- The text of a field. A style with a brace in it is a template that `expand` fills in. -/
def fillField (values : Dictionary Json) (expand : List Char → Except TemplateFault (List Char))
    (f : Field) : Except TemplateFault (List Char) := do
  let subject ← (resolve values f.reference).mapError .reference
  let subject ← convert subject f.conversion
  let style ← if f.style.contains '{' then expand f.style else pure f.style
  (subject.styled style).mapError .style

/-- The text of some pieces. -/
def fillPieces (values : Dictionary Json)
    (expand : List Char → Except TemplateFault (List Char)) :
    List Piece → Except TemplateFault (List Char)
  | [] => .ok []
  | .literal c :: pieces => (fillPieces values expand pieces).map (c :: ·)
  | .field f :: pieces => do
    let text ← fillField values expand f
    return text ++ (← fillPieces values expand pieces)
  | .fault f :: _ => .error f

/-- Fills in a template whose fields nest at most so deep. -/
def fillWithin (values : Dictionary Json) : Nat → List Char → Except TemplateFault (List Char)
  | 0, _ => .error .tooDeep
  | depth + 1, template => fillPieces values (fillWithin values depth) (pieces .outside template)

/-- Fills in a template. The style of a field may have fields, whose styles have none. -/
def fill (values : Dictionary Json) (template : List Char) : Except TemplateFault (List Char) :=
  fillWithin values 2 template

end FormulaOcr.Localization
