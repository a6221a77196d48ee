import FormulaOcr.Number.Binary64

/-! Decimal forms of binary numbers: the shortest digits that read back, a number of places with or
without an exponent, and a number of significant digits. -/

namespace FormulaOcr.Binary64

/-- A positive decimal number `0.d₁d₂… · 10^point`. -/
structure Decimal where
  digits : List Char
  point : Int
deriving DecidableEq, Repr

/-- The digits of a number, without the zeros at its end. -/
def significant (n : Nat) : List Char :=
  ((Nat.toDigits 10 n).reverse.dropWhile (· == '0')).reverse

/-- The least `point` with `n / d < 10^point`, searched upward from a start below it. -/
def pointFrom (n d : Nat) : Nat → Int → Int
  | 0, point => point
  | fuel + 1, point =>
    let below :=
      if 0 ≤ point then n < d * Nat.pow 10 point.toNat else n * Nat.pow 10 (-point).toNat < d
    if below then point else pointFrom n d fuel (point + 1)

/-- The place of the decimal point of a positive quotient. -/
def pointOf (n d : Nat) : Int :=
  pointFrom n d 8 (((n.log2 : Int) - d.log2 - 1) * 30103 / 100000 - 2)

/-- The quotient in steps of `10^step`, rounded down. -/
def scaled (n d : Nat) (step : Int) : Nat × Nat :=
  if 0 ≤ step then (n, d * Nat.pow 10 step.toNat) else (n * Nat.pow 10 (-step).toNat, d)

/-- The nearest decimal with `count` digits that lies among the reals that round to `units`, if
there is one. Bounds are in quarters of a unit; they belong to the range iff the last bit of the
number is even. -/
def nearestWithin (units : Nat) (point : Int) (count : Nat) : Option Decimal :=
  let step := spacing units
  let low := 4 * units - (if units = Nat.pow 2 units.log2 && 1 < step then step else 2 * step)
  let high := 4 * units + 2 * step
  let even := units / step % 2 == 0
  let (n, d) := scaled units unitsPerOne (point - count)
  let inside (k : Nat) : Bool :=
    let (quarters, scale) := if point - count < 0
      then (k * unitsPerOne * 4, Nat.pow 10 (count - point).toNat)
      else (k * Nat.pow 10 (point - count).toNat * unitsPerOne * 4, 1)
    (low * scale < quarters && quarters < high * scale) ||
      (even && (quarters == low * scale || quarters == high * scale))
  let down := n / d
  let decimal (k : Nat) : Decimal :=
    ⟨significant k, point + (Nat.toDigits 10 k).length - count⟩
  let nearest := roundDiv n d
  if inside nearest && nearest != 0 then some (decimal nearest)
  else if inside down && down != 0 then some (decimal down)
  else if inside (down + 1) then some (decimal (down + 1))
  else none

/-- The shortest decimal that reads back as this many units, and the nearest of those. -/
def shortest (units : Nat) : Decimal :=
  let point := pointOf units unitsPerOne
  ((List.range 17).findSome? fun i => nearestWithin units point (i + 1)).getD
    ⟨significant units, point⟩

/-- The number of units rounded to `count` significant digits, a half going to the even
neighbour. -/
def rounded (count units : Nat) : Decimal :=
  let point := pointOf units unitsPerOne
  let (n, d) := scaled units unitsPerOne (point - count)
  let k := roundDiv n d
  ⟨significant k, point + (Nat.toDigits 10 k).length - count⟩

/-- The number of units rounded to `places` decimals, a half going to the even neighbour. -/
def roundedTo (places units : Nat) : Decimal :=
  let k := roundDiv (units * Nat.pow 10 places) unitsPerOne
  ⟨significant k, (Nat.toDigits 10 k).length - places⟩

/-- Which digits of a number are shown, and how: the shortest ones that read back, so many decimals,
so many decimals in front of an exponent, or so many significant digits. -/
inductive Form
  | shortest
  | places (count : Nat)
  | exponent (count : Nat)
  | general (count : Nat)
deriving DecidableEq, Repr

/-- The digits that a form shows; there are none if they would all be zero. -/
def Form.digits (form : Form) (units : Nat) : Decimal :=
  if units = 0 then ⟨[], 1⟩
  else match form with
    | .shortest => Binary64.shortest units
    | .places count => roundedTo count units
    | .exponent count => rounded (count + 1) units
    | .general count => rounded count units

/-- What is written beside the digits that count: with `allPlaces` a point without decimals behind
it and the zeros at the end of a general form, with `onePlace` at least one decimal, if there is no
exponent. -/
structure Extras where
  allPlaces : Bool := false
  onePlace : Bool := false
deriving DecidableEq, Repr

/-- A number in at least `width` digits. -/
def padded (width n : Nat) : List Char :=
  let digits := Nat.toDigits 10 n
  List.replicate (width - digits.length) '0' ++ digits

/-- A decimal in positional form with at least `places` decimals. -/
def positional (places : Nat) (extras : Extras) (d : Decimal) : List Char :=
  let whole := d.digits.take d.point.toNat
  let fraction := List.replicate (-d.point).toNat '0' ++ d.digits.drop d.point.toNat
  let fraction := fraction ++ List.replicate (places - fraction.length) '0'
  (if d.point ≤ 0 then ['0'] else whole ++ List.replicate (d.point.toNat - whole.length) '0') ++
    (if fraction.isEmpty && !extras.allPlaces then [] else '.' :: fraction)

/-- A decimal in exponent form; the exponent has a sign and at least two digits. -/
def scientific (places : Nat) (extras : Extras) (d : Decimal) : List Char :=
  let exponent := d.point - 1
  positional places extras { d with point := 1 } ++
    ['e', if exponent < 0 then '-' else '+'] ++ padded 2 exponent.natAbs

/-- Numbers below 10^-4 have an exponent, and so have those that reach `10^limit`. -/
def needsExponent (limit : Int) (d : Decimal) : Bool :=
  d.point ≤ -4 || limit < d.point

/-- The text of a number of units in a form. -/
def spell (form : Form) (extras : Extras) (units : Nat) : List Char :=
  let d := form.digits units
  let least := if extras.onePlace then 1 else 0
  match form with
  | .places count => positional count extras d
  | .exponent count => scientific count extras d
  | .shortest =>
    if needsExponent 16 d then scientific 0 extras d else positional least extras d
  | .general count =>
    let all (point : Int) := if extras.allPlaces then (count - point).toNat else 0
    if needsExponent (count - least : Nat) d then scientific (all 1) extras d
    else positional (max (all d.point) least) extras d

def isNegative : Binary64 → Bool
  | .nan => false
  | .infinity s => s
  | .finite s _ => s

/-- The text of a number without its sign. -/
def magnitude (form : Form) (extras : Extras) : Binary64 → List Char
  | .nan => "nan".toList
  | .infinity _ => "inf".toList
  | .finite _ units => spell form extras units

def withSign (negative : Bool) (t : List Char) : List Char :=
  if negative then '-' :: t else t

def text (form : Form) (extras : Extras) (x : Binary64) : List Char :=
  withSign x.isNegative (x.magnitude form extras)

/-- The shortest text that reads back: positional from 10^-4 up to 10^16, with at least one
decimal, else in exponent form. -/
def repr (x : Binary64) : List Char :=
  x.text .shortest { onePlace := true }

/-- Exactly `places` decimals. -/
def fixed (places : Nat) (x : Binary64) : List Char :=
  x.text (.places places) {}

/-- At most six significant digits without zeros at the end: positional from 10^-4 up to 10^6. -/
def general (x : Binary64) : List Char :=
  x.text (.general 6) {}

end FormulaOcr.Binary64
