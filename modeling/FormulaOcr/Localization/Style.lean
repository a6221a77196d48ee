import FormulaOcr.Text.Digit

/-! Styles: how a value is laid out inside a message. A style is a short text of parts that may all
be missing: fill and alignment, sign, positive zero, alternate form, zeros in front, width,
separator of the digits, precision, and the letter of a form. -/

namespace FormulaOcr.Localization

/-- The largest number that a template may mention. -/
def largestNumber : Nat := Nat.pow 2 63 - 1

/-- The number that continues `n` with the decimal digits at the front of a text, and what stands
behind them; nothing if the number is too large. -/
def takeNumber (n : Nat) : List Char → Option (Nat × List Char)
  | [] => some (n, [])
  | c :: rest =>
    match Text.digitValue? c with
    | none => some (n, c :: rest)
    | some d => if largestNumber < n * 10 + d then none else takeNumber (n * 10 + d) rest

/-- Where the fill goes: behind the value, in front of it, to both sides, or between the sign and
the digits. -/
inductive Alignment
  | left
  | right
  | center
  | inner
deriving DecidableEq, Repr

def Alignment.ofChar? : Char → Option Alignment
  | '<' => some .left
  | '>' => some .right
  | '^' => some .center
  | '=' => some .inner
  | _ => none

/-- What is wrong with a style, or why a value cannot be laid out in it. -/
inductive StyleFault
  | malformed (style kind : String)
  | tooManyDigits
  | noPrecision
  | bothSeparators
  | separatorWith (separator letter : Char)
  | unknownLetter (letter : Char) (kind : String)
  | unsupported (kind : String)
  | spaceInText
  | signInText
  | positiveZeroInText
  | alternateInText
  | innerInText
  | precisionInWhole
  | positiveZeroInWhole
  | signInCharacter
  | alternateInCharacter
  | largePrecision
  | noCharacter
  | beyondWord
  | beyondReal
  | noMemory
deriving DecidableEq, Repr

/-- A character inside a message, or its number in hexadecimal if it lies outside the range from
the space, exclusive, to `limit`. -/
def shownChar (limit : Nat) (c : Char) : String :=
  if 0x20 < c.toNat && c.toNat < limit then .singleton c
  else "\\x" ++ .ofList (Nat.toDigits 16 c.toNat)

def StyleFault.message : StyleFault → String
  | .malformed style kind => s!"Invalid format specifier '{style}' for object of type '{kind}'"
  | .tooManyDigits => "Too many decimal digits in format string"
  | .noPrecision => "Format specifier missing precision"
  | .bothSeparators => "Cannot specify both ',' and '_'."
  | .separatorWith separator letter =>
    s!"Cannot specify '{shownChar 0x80 separator}' with '{shownChar 0x80 letter}'."
  | .unknownLetter letter kind =>
    s!"Unknown format code '{shownChar 0x80 letter}' for object of type '{kind}'"
  | .unsupported kind => s!"unsupported format string passed to {kind}.__format__"
  | .spaceInText => "Space not allowed in string format specifier"
  | .signInText => "Sign not allowed in string format specifier"
  | .positiveZeroInText => "Negative zero coercion (z) not allowed in string format specifier"
  | .alternateInText => "Alternate form (#) not allowed in string format specifier"
  | .innerInText => "'=' alignment not allowed in string format specifier"
  | .precisionInWhole => "Precision not allowed in integer format specifier"
  | .positiveZeroInWhole => "Negative zero coercion (z) not allowed in integer format specifier"
  | .signInCharacter => "Sign not allowed with integer format specifier 'c'"
  | .alternateInCharacter => "Alternate form (#) not allowed with integer format specifier 'c'"
  | .largePrecision => "precision too big"
  | .noCharacter => "%c arg not in range(0x110000)"
  | .beyondWord => "Python int too large to convert to C long"
  | .beyondReal => "int too large to convert to float"
  | .noMemory => ""

/-- A style that was read. A width of zero asks for nothing. -/
structure Style where
  fill : Char
  alignment : Alignment
  sign : Option Char
  positiveZero : Bool
  alternate : Bool
  width : Nat
  separator : Option Char
  precision : Option Nat
  letter : Option Char
deriving DecidableEq, Repr

namespace Style

/-- The fill and the alignment at the front of a style. -/
def takeAlignment : List Char → Option Char × Option Alignment × List Char
  | c :: d :: rest =>
    match Alignment.ofChar? d with
    | some alignment => (some c, some alignment, rest)
    | none =>
      match Alignment.ofChar? c with
      | some alignment => (none, some alignment, d :: rest)
      | none => (none, none, c :: d :: rest)
  | [c] =>
    match Alignment.ofChar? c with
    | some alignment => (none, some alignment, [])
    | none => (none, none, [c])
  | [] => (none, none, [])

/-- One of the marks at the front of a text, if there is one. -/
def takeMark (marks : List Char) : List Char → Option Char × List Char
  | [] => (none, [])
  | c :: rest => if marks.contains c then (some c, rest) else (none, c :: rest)

/-- The number at the front of a text, if there is one. -/
def takeSize (t : List Char) : Except StyleFault (Option Nat × List Char) :=
  match takeNumber 0 t with
  | none => .error .tooManyDigits
  | some (n, rest) => .ok (if rest.length < t.length then some n else none, rest)

def takeSeparator : List Char → Except StyleFault (Option Char × List Char)
  | ',' :: '_' :: _ => .error .bothSeparators
  | '_' :: ',' :: _ => .error .bothSeparators
  | t => .ok (takeMark [',', '_'] t)

def takePrecision : List Char → Except StyleFault (Option Nat × List Char)
  | '.' :: rest => do
    match ← takeSize rest with
    | (none, _) => throw .noPrecision
    | (some n, rest) => return (some n, rest)
  | t => .ok (none, t)

/-- The letters of decimal forms, in which the digits may be separated. -/
def decimalLetters : List Char :=
  ['d', 'e', 'f', 'g', 'E', 'G', '%', 'F', '\x00']

/-- The letters of forms whose base is a power of two. -/
def binaryLetters : List Char :=
  ['b', 'o', 'x', 'X']

/-- Commas stand in decimal forms alone, underscores in binary ones as well. -/
def checkSeparator (separator letter : Option Char) : Except StyleFault Unit :=
  match separator, letter with
  | some s, some l =>
    if decimalLetters.contains l || (s = '_' && binaryLetters.contains l) then .ok ()
    else .error (.separatorWith s l)
  | _, _ => .ok ()

/-- Reads a style for a kind of value, which has an alignment and a letter of its own. Zeros in
front go between the sign and the digits, unless the style says otherwise. -/
def read (kind : String) (alignment : Alignment) (letter : Option Char) (t : List Char) :
    Except StyleFault Style := do
  let (fill, given, rest) := takeAlignment t
  let (sign, rest) := takeMark ['+', '-', ' '] rest
  let (positiveZero, rest) := takeMark ['z'] rest
  let (alternate, rest) := takeMark ['#'] rest
  let (zeros, rest) := if fill.isNone then takeMark ['0'] rest else (none, rest)
  let (width, rest) ← takeSize rest
  let (separator, rest) ← takeSeparator rest
  let (precision, rest) ← takePrecision rest
  let letter ← match rest with
    | [] => pure letter
    | [c] => pure (some c)
    | _ => throw (.malformed (.ofList t) kind)
  checkSeparator separator letter
  return {
    fill := fill.getD (zeros.getD ' ')
    alignment := given.getD (if zeros.isSome && alignment = .right then .inner else alignment)
    sign
    positiveZero := positiveZero.isSome
    alternate := alternate.isSome
    width := width.getD 0
    separator, precision, letter }

end Style

end FormulaOcr.Localization
