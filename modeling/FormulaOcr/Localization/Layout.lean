import FormulaOcr.Localization.Style
import FormulaOcr.Number.Decimal
import FormulaOcr.Text.Search

/-! Laying out texts and numbers in a style. -/

namespace FormulaOcr.Localization

/-- The parts of what is laid out: whether it is negative, the mark of its base, the digits that may
be separated and preceded by zeros, and all that stands behind them. -/
structure Parts where
  negative : Bool := false
  mark : List Char := []
  digits : List Char := []
  rest : List Char

namespace Style

/-- A separator between groups of digits, counted from the end. -/
def inGroups (separator : Char) (size : Nat) : List Char → List Char
  | [] => []
  | c :: rest =>
    if !rest.isEmpty && rest.length % size == 0 then c :: separator :: inGroups separator size rest
    else c :: inGroups separator size rest

/-- How many digits stand in a group. -/
def groupSize (s : Style) : Nat :=
  if s.letter.any binaryLetters.contains then 4 else 3

/-- Digits with their separators, and zeros in front of them up to a width. No separator stands at
the front, so the width may be exceeded by one. -/
def grouped (s : Style) (width : Nat) (digits : List Char) : List Char :=
  let filled (count : Nat) := List.replicate (count - digits.length) '0' ++ digits
  match s.separator with
  | none => filled width
  | some separator =>
    inGroups separator s.groupSize (filled (width - (width - 1) / (s.groupSize + 1)))

/-- The sign that is shown. -/
def signOf (s : Style) (negative : Bool) : List Char :=
  if negative then ['-']
  else match s.sign with
    | some '+' => ['+']
    | some ' ' => [' ']
    | _ => []

/-- A width that no memory holds. -/
def excessiveWidth : Nat := Nat.pow 2 36

/-- All parts, filled up to the width. -/
def lay (s : Style) (p : Parts) : Except StyleFault (List Char) :=
  if excessiveWidth ≤ s.width then .error .noMemory else
  let sign := s.signOf p.negative
  let bare := sign.length + p.mark.length + p.rest.length
  let zeros := s.fill = '0' && s.alignment = .inner
  let digits :=
    if p.digits.isEmpty then [] else s.grouped (if zeros then s.width - bare else 0) p.digits
  let missing := s.width - (bare + digits.length)
  let (before, between) := match s.alignment with
    | .left => (0, 0)
    | .right => (missing, 0)
    | .center => (missing / 2, 0)
    | .inner => (0, missing)
  let fill (count : Nat) := List.replicate count s.fill
  .ok <| fill before ++ sign ++ p.mark ++ fill between ++ digits ++ p.rest ++
    fill (missing - before - between)

/-- A text, cut off at the precision. -/
def layText (s : Style) (t : List Char) : Except StyleFault (List Char) :=
  if s.sign = some ' ' then .error .spaceInText
  else if s.sign.isSome then .error .signInText
  else if s.positiveZero then .error .positiveZeroInText
  else if s.alternate then .error .alternateInText
  else if s.alignment = .inner then .error .innerInText
  else s.lay { rest := t.take (s.precision.getD t.length) }

/-- The form that a letter asks for in a real number. Without a letter the digits are the shortest
ones, or as many as the precision says, and one decimal at least is shown. -/
def realForm? (s : Style) : Option (Binary64.Form × Binary64.Extras) :=
  let count := s.precision.getD 6
  let extras : Binary64.Extras := { allPlaces := s.alternate }
  match s.letter.getD '\x00' with
  | '\x00' =>
    some ((s.precision.map fun n => .general (max n 1)).getD .shortest,
      { extras with onePlace := true })
  | 'e' | 'E' => some (.exponent count, extras)
  | 'f' | 'F' | '%' => some (.places count, extras)
  | 'g' | 'G' | 'n' => some (.general (max count 1), extras)
  | _ => none

/-- A number without digits that count loses its sign if the style says so. -/
def keepsSign (s : Style) (form : Binary64.Form) : Binary64 → Bool
  | .finite negative units =>
    negative && !(s.positiveZero && (form.digits units).digits.isEmpty)
  | x => x.isNegative

/-- The largest precision of a real number. -/
def largestPrecision : Nat := Nat.pow 2 31 - 1

/-- A real number. A percentage shows a hundred times as much, with its mark. -/
def layReal (s : Style) (kind : String) (x : Binary64) : Except StyleFault (List Char) :=
  match s.realForm? with
  | none => .error (.unknownLetter (s.letter.getD '\x00') kind)
  | some (form, extras) =>
    if largestPrecision < s.precision.getD 0 then .error .largePrecision
    else
      let percent := s.letter = some '%'
      let x := if percent then x.times 100 else x
      let text := x.magnitude form extras
      let text := if s.letter.any ['E', 'F', 'G'].contains then text.map Char.toUpper else text
      s.lay
        { negative := s.keepsSign form x
          digits := text.takeWhile Text.isAsciiDigit
          rest := text.dropWhile Text.isAsciiDigit ++ if percent then ['%'] else [] }

/-- The base that a letter asks for in a whole number, and the mark of the base. -/
def base? : Char → Option (Nat × List Char)
  | 'd' => some (10, [])
  | 'n' => some (10, [])
  | 'b' => some (2, ['0', 'b'])
  | 'o' => some (8, ['0', 'o'])
  | 'x' => some (16, ['0', 'x'])
  | 'X' => some (16, ['0', 'X'])
  | _ => none

/-- The character with a given number. -/
def layCharacter (s : Style) (n : Int) : Except StyleFault (List Char) :=
  let word : Int := Nat.pow 2 63
  if s.sign.isSome then .error .signInCharacter
  else if s.alternate then .error .alternateInCharacter
  else if n < -word || word ≤ n then .error .beyondWord
  else if n < 0 || 0x110000 ≤ n then .error .noCharacter
  else s.lay { rest := [.ofNat n.toNat] }

/-- A whole number in the base of its letter, as a character, or as a real number. -/
def layWhole (s : Style) (kind : String) (n : Int) : Except StyleFault (List Char) :=
  let letter := s.letter.getD 'd'
  if letter = 'c' || (base? letter).isSome then
    if s.precision.isSome then .error .precisionInWhole
    else if s.positiveZero then .error .positiveZeroInWhole
    else match base? letter with
      | none => s.layCharacter n
      | some (base, mark) =>
        let digits := Nat.toDigits base n.natAbs
        s.lay
          { negative := n < 0
            mark := if s.alternate then mark else []
            digits := if letter = 'X' then digits.map Char.toUpper else digits
            rest := [] }
  else if letter = '\x00' || s.realForm?.isNone then .error (.unknownLetter letter kind)
  else match Binary64.ofInt n with
    | .infinity _ => .error .beyondReal
    | x => s.layReal kind x

end Style

end FormulaOcr.Localization
