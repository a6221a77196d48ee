import FormulaOcr.Encoding.Wide
import FormulaOcr.Json.Value
import FormulaOcr.Number.Reading

/-! Reading JSON texts. `NaN` and the infinities are numbers; of two members with one name the
later value counts, at the place of the earlier one; every refusal says where it stopped. -/

namespace FormulaOcr.Json

inductive Reason
  | expectingValue
  | expectingName
  | expectingColon
  | expectingComma
  | extraData
  | unterminatedString
  | controlCharacter
  | badEscape
  | badUnicodeEscape
  | byteOrderMark
deriving DecidableEq, Repr

def Reason.text : Reason → String
  | .expectingValue => "Expecting value"
  | .expectingName => "Expecting property name enclosed in double quotes"
  | .expectingColon => "Expecting ':' delimiter"
  | .expectingComma => "Expecting ',' delimiter"
  | .extraData => "Extra data"
  | .unterminatedString => "Unterminated string starting at"
  | .controlCharacter => "Invalid control character at"
  | .badEscape => "Invalid \\escape"
  | .badUnicodeEscape => "Invalid \\uXXXX escape"
  | .byteOrderMark => "Unexpected UTF-8 BOM (decode using utf-8-sig)"

/-- Why reading stopped, and what was left to read from there on. A reader that goes on gives its
result together with what is left to read behind it. -/
structure Stop where
  reason : Reason
  rest : List Char
deriving DecidableEq, Repr

def isSpace (c : Char) : Bool :=
  c == ' ' || c == '\t' || c == '\n' || c == '\r'

def skipSpace (t : List Char) : List Char :=
  t.dropWhile isSpace

def hexValue? (c : Char) : Option Nat :=
  if '0' ≤ c && c ≤ '9' then some (c.toNat - '0'.toNat)
  else if 'a' ≤ c && c ≤ 'f' then some (c.toNat - 'a'.toNat + 10)
  else if 'A' ≤ c && c ≤ 'F' then some (c.toNat - 'A'.toNat + 10)
  else none

/-- The number spelled by four hexadecimal digits. -/
def hexNumber? (digits : List Char) : Option Nat :=
  digits.foldlM (fun n c => (hexValue? c).map (n * 16 + ·)) 0

/-- What a backslash and this letter stand for. -/
def unescape? : Char → Option Char
  | '"' => some '"'
  | '\\' => some '\\'
  | '/' => some '/'
  | 'b' => some '\x08'
  | 'f' => some '\x0c'
  | 'n' => some '\n'
  | 'r' => some '\r'
  | 't' => some '\t'
  | _ => none

/-- Four hexadecimal digits behind a `u`, in a text that goes on behind them. -/
def readUnit : List Char → Except Stop (Nat × List Char)
  | a :: b :: c :: d :: e :: rest =>
    match hexNumber? [a, b, c, d] with
    | some n => .ok (n, e :: rest)
    | none => .error ⟨.badUnicodeEscape, 'u' :: a :: b :: c :: d :: e :: rest⟩
  | t => .error ⟨.badUnicodeEscape, 'u' :: t⟩

/-- The character spelled by an escape whose `\u` is read already. A high surrogate takes a low one
that follows as an escape of its own. -/
def readUnicode (t : List Char) : Except Stop (Char × List Char) := do
  let (unit, rest) ← readUnit t
  if Encoding.Wide.isHighSurrogate unit then
    match rest with
    | '\\' :: 'u' :: more =>
      if more.length < 5 then return (Encoding.Wide.charOf unit, rest)
      let (low, after) ← readUnit more
      if Encoding.Wide.isLowSurrogate low then
        return (.ofNat (Encoding.Wide.pair unit low), after)
      else return (Encoding.Wide.charOf unit, rest)
    | _ => return (Encoding.Wide.charOf unit, rest)
  else return (Encoding.Wide.charOf unit, rest)

/-- The next character of a string that began at `start`, or nothing at its closing quote. -/
def readChar (start : List Char) : List Char → Except Stop (Option Char × List Char)
  | [] => .error ⟨.unterminatedString, start⟩
  | '"' :: rest => .ok (none, rest)
  | ['\\'] => .error ⟨.unterminatedString, start⟩
  | '\\' :: 'u' :: rest => (readUnicode rest).map fun (c, rest) => (some c, rest)
  | '\\' :: c :: rest =>
    match unescape? c with
    | some x => .ok (some x, rest)
    | none => .error ⟨.badEscape, '\\' :: c :: rest⟩
  | c :: rest =>
    if c.toNat < 0x20 then .error ⟨.controlCharacter, c :: rest⟩ else .ok (some c, rest)

/-- The rest of a string that began at `start`, up to and over its closing quote. -/
def readString (start : List Char) : Nat → List Char → Except Stop (List Char × List Char)
  | 0, _ => .error ⟨.unterminatedString, start⟩
  | fuel + 1, t => do
    match ← readChar start t with
    | (none, rest) => return ([], rest)
    | (some c, rest) =>
      let (cs, rest) ← readString start fuel rest
      return (c :: cs, rest)

/-- A point and the digits behind it, if there are any. -/
def takeFraction : List Char → Option (List Char) × List Char
  | '.' :: rest =>
    let digits := rest.takeWhile Text.isAsciiDigit
    if digits.isEmpty then (none, '.' :: rest)
    else (some digits, rest.dropWhile Text.isAsciiDigit)
  | t => (none, t)

/-- An exponent with its letter, if it is complete. -/
def takeExponent : List Char → Option Int × List Char
  | c :: rest =>
    if c = 'e' || c = 'E' then
      let (negative, digits) := Number.takeSign rest
      let run := digits.takeWhile Text.isAsciiDigit
      if run.isEmpty then (none, c :: rest)
      else (some (Binary64.signed negative (Number.natOfDigits run)),
        digits.dropWhile Text.isAsciiDigit)
    else (none, c :: rest)
  | [] => (none, [])

/-- The whole part of a number: one zero, or digits that begin with another one. -/
def takeWhole : List Char → Option (List Char × List Char)
  | '0' :: rest => some (['0'], rest)
  | t =>
    let digits := t.takeWhile Text.isAsciiDigit
    if digits.isEmpty then none else some (digits, t.dropWhile Text.isAsciiDigit)

/-- A number whose sign is read already. With a fraction or an exponent it is a binary one, else a
whole one of any size. -/
def takeUnsigned (negative : Bool) (t : List Char) : Option (Json × List Char) :=
  match takeWhole t with
  | none => none
  | some (whole, rest) =>
    let (fraction, rest) := takeFraction rest
    let (exponent, rest) := takeExponent rest
    if fraction.isNone && exponent.isNone then
      some (.int (Binary64.signed negative (Number.natOfDigits whole)), rest)
    else
      some (.float (Number.decimal negative whole (fraction.getD []) (exponent.getD 0)), rest)

def takeNumber : List Char → Option (Json × List Char)
  | '-' :: rest => takeUnsigned true rest
  | t => takeUnsigned false t

/-- The words that are values. -/
def words : List (List Char × Json) :=
  [("null".toList, .null), ("true".toList, .bool true), ("false".toList, .bool false),
   ("NaN".toList, .float .nan), ("Infinity".toList, .float (.infinity false)),
   ("-Infinity".toList, .float (.infinity true))]

def readScalar (t : List Char) : Except Stop (Json × List Char) :=
  match words.findSome? fun (word, value) => (Text.dropFront? word t).map (value, ·) with
  | some found => .ok found
  | none =>
    match takeNumber t with
    | some found => .ok found
    | none => .error ⟨.expectingValue, t⟩

mutual

/-- A value at the front of a text. The first argument bounds the number of steps. -/
def readValue : Nat → List Char → Except Stop (Json × List Char)
  | 0, t => .error ⟨.expectingValue, t⟩
  | fuel + 1, t =>
    match t with
    | '"' :: rest => (readString t rest.length rest).map fun (cs, rest) => (.str (.ofList cs), rest)
    | '{' :: rest =>
      match skipSpace rest with
      | '}' :: rest => .ok (.obj [], rest)
      | rest => (readMembers fuel [] rest).map fun (members, rest) => (.obj members, rest)
    | '[' :: rest =>
      match skipSpace rest with
      | ']' :: rest => .ok (.arr [], rest)
      | rest => (readItems fuel rest).map fun (items, rest) => (.arr items, rest)
    | _ => readScalar t

/-- The members of an object from the next name on, put after those that are known. -/
def readMembers : Nat → Dictionary Json → List Char → Except Stop (Dictionary Json × List Char)
  | 0, _, t => .error ⟨.expectingName, t⟩
  | fuel + 1, members, t =>
    match t with
    | '"' :: rest => do
      let (name, rest) ← readString t rest.length rest
      match skipSpace rest with
      | ':' :: rest =>
        let (value, rest) ← readValue fuel (skipSpace rest)
        let members := Dictionary.assign members (.ofList name) value
        match skipSpace rest with
        | '}' :: rest => return (members, rest)
        | ',' :: rest => readMembers fuel members (skipSpace rest)
        | rest => .error ⟨.expectingComma, rest⟩
      | rest => .error ⟨.expectingColon, rest⟩
    | _ => .error ⟨.expectingName, t⟩

/-- The items of an array from the next one on. -/
def readItems : Nat → List Char → Except Stop (List Json × List Char)
  | 0, t => .error ⟨.expectingValue, t⟩
  | fuel + 1, t => do
    let (value, rest) ← readValue fuel t
    match skipSpace rest with
    | ']' :: rest => return ([value], rest)
    | ',' :: rest =>
      let (items, rest) ← readItems fuel (skipSpace rest)
      return (value :: items, rest)
    | rest => .error ⟨.expectingComma, rest⟩

end

/-- A refusal with the place where reading stopped, counted in characters from zero. -/
structure ReadError where
  reason : Reason
  position : Nat
  line : Nat
  column : Nat
deriving DecidableEq, Repr

def ReadError.message (e : ReadError) : String :=
  s!"{e.reason.text}: line {e.line} column {e.column} (char {e.position})"

/-- The place where a reader of `t` stopped. -/
def Stop.locate (t : List Char) (s : Stop) : ReadError :=
  let position := t.length - s.rest.length
  let before := t.take position
  { reason := s.reason
    position
    line := before.count '\n' + 1
    column := (before.reverse.takeWhile (· != '\n')).length + 1 }

/-- A text that is one value with nothing but white space around it. Two steps for each character
are enough, as an opening bracket takes one and its first item another. -/
def readWhole (t : List Char) : Except Stop Json := do
  let (value, rest) ← readValue (2 * t.length + 1) (skipSpace t)
  match skipSpace rest with
  | [] => return value
  | rest => .error ⟨.extraData, rest⟩

/-- The value of a text that was decoded already. -/
def readDecoded (t : List Char) : Except ReadError Json :=
  (readWhole t).mapError (·.locate t)

/-- The value of a text, which must not begin with a byte order mark. -/
def read (t : List Char) : Except ReadError Json :=
  match t with
  | c :: _ => if c.toNat = 0xFEFF then .error ⟨.byteOrderMark, 0, 1, 1⟩ else readDecoded t
  | [] => readDecoded t

end FormulaOcr.Json
