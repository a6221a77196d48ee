import FormulaOcr.Number.Binary64
import FormulaOcr.Text.Digit
import FormulaOcr.Text.Blank
import FormulaOcr.Text.Search

/-! Reading numbers that people type: blanks around them, digits of any script, and single
underscores between digits are allowed. -/

namespace FormulaOcr.Number

def digitNat (c : Char) : Nat :=
  c.toNat - '0'.toNat

/-- The number spelled by decimal digits. -/
def natOfDigits (digits : List Char) : Nat :=
  digits.foldl (fun n c => n * 10 + digitNat c) 0

/-- The text with every digit and blank in its ASCII form, or nothing if it has a character that
can occur in no number. Information separators count as blanks nowhere here. -/
def plain? (t : List Char) : Option (List Char) :=
  t.mapM fun c =>
    if c.toNat < 127 then some c
    else if Text.isBlank c then some ' '
    else (Text.digitValue? c).map fun d => Char.ofNat ('0'.toNat + d)

def isPlainBlank (c : Char) : Bool :=
  c == ' ' || (0x9 ≤ c.toNat && c.toNat ≤ 0xD)

def trimPlain (t : List Char) : List Char :=
  ((t.dropWhile isPlainBlank).reverse.dropWhile isPlainBlank).reverse

/-- The text without its underscores, each of which must stand between two digits. -/
def withoutUnderscores? (previous : Char) : List Char → Option (List Char)
  | [] => if previous = '_' then none else some []
  | c :: rest =>
    if c = '_' then
      if Text.isAsciiDigit previous then withoutUnderscores? c rest else none
    else if previous = '_' && !Text.isAsciiDigit c then none
    else (withoutUnderscores? c rest).map (c :: ·)

/-- The sign at the front of a text, negative or not, and the rest. -/
def takeSign : List Char → Bool × List Char
  | '-' :: rest => (true, rest)
  | '+' :: rest => (false, rest)
  | t => (false, t)

/-- A signed run of digits and nothing else. -/
def exponent? (t : List Char) : Option Int :=
  let (negative, digits) := takeSign t
  if digits.isEmpty || !digits.all Text.isAsciiDigit then none
  else some (Binary64.signed negative (natOfDigits digits))

/-- The value of a whole part, a fraction and an exponent. -/
def decimal (negative : Bool) (whole fraction : List Char) (exponent : Int) : Binary64 :=
  .ofDecimal negative (natOfDigits (whole ++ fraction)) (exponent - fraction.length)

/-- A decimal number without a sign: digits with at most one point among or beside them, and an
exponent if there is one. -/
def unsigned? (negative : Bool) (t : List Char) : Option Binary64 :=
  let whole := t.takeWhile Text.isAsciiDigit
  let (fraction, rest) := match t.dropWhile Text.isAsciiDigit with
    | '.' :: rest => (rest.takeWhile Text.isAsciiDigit, rest.dropWhile Text.isAsciiDigit)
    | rest => ([], rest)
  if whole.isEmpty && fraction.isEmpty then none
  else match rest with
    | [] => some (decimal negative whole fraction 0)
    | c :: rest =>
      if c = 'e' || c = 'E' then (exponent? rest).map (decimal negative whole fraction) else none

/-- A decimal number, an infinity or the word for no number, in any letter case. -/
def binary64? (t : List Char) : Option Binary64 := do
  let t ← plain? t
  let t ← withoutUnderscores? ' ' (trimPlain t)
  let (negative, t) := takeSign t
  let word := String.ofList (t.map Char.toLower)
  if word == "inf" || word == "infinity" then some (.infinity negative)
  else if word == "nan" then some .nan
  else unsigned? negative t

/-- A whole number. -/
def int? (t : List Char) : Option Int := do
  let t ← plain? t
  let t ← withoutUnderscores? ' ' (trimPlain t)
  exponent? t

end FormulaOcr.Number
