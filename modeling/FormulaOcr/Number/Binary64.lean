/-! Binary floating-point numbers of 64 bits, as exact multiples of the smallest positive one. -/

namespace FormulaOcr

/-- A number of the format: a signed multiple of 2^-1074, an infinity, or no number at all. Zero
has a sign. -/
inductive Binary64
  | nan
  | infinity (negative : Bool)
  | finite (negative : Bool) (units : Nat)
deriving DecidableEq, Repr, Inhabited

namespace Binary64

def zero : Binary64 := .finite false 0

/-- How many units make one. -/
def unitsPerOne : Nat := Nat.pow 2 1074

/-- The first magnitude, in units, that is too large for a finite number. -/
def overflow : Nat := Nat.pow 2 2098

/-- The quotient rounded to the nearest integer, a half going to the even neighbour. -/
def roundDiv (n d : Nat) : Nat :=
  let q := n / d
  let twice := 2 * (n % d)
  if twice < d then q else if d < twice then q + 1 else q + q % 2

/-- The distance, in units, of the neighbours of a number of this magnitude: 53 bits are kept. -/
def spacing (units : Nat) : Nat :=
  Nat.pow 2 (units.log2 + 1 - 53)

/-- The number nearest to `n / d` units. -/
def ofQuotient (negative : Bool) (n d : Nat) : Binary64 :=
  let step := spacing (n / d)
  let units := roundDiv n (d * step) * step
  if units < overflow then .finite negative units else .infinity negative

/-- The number nearest to `digits · 10^exponent`. Exponents far outside the range of the format
are settled by the number of digits alone. -/
def ofDecimal (negative : Bool) (digits : Nat) (exponent : Int) : Binary64 :=
  let top := (Nat.toDigits 10 digits).length + exponent
  if digits = 0 || top < -330 then .finite negative 0
  else if 310 < top then .infinity negative
  else if 0 ≤ exponent then ofQuotient negative (digits * Nat.pow 10 exponent.toNat * unitsPerOne) 1
  else ofQuotient negative (digits * unitsPerOne) (Nat.pow 10 (-exponent).toNat)

def ofInt (n : Int) : Binary64 :=
  ofQuotient (n < 0) (n.natAbs * unitsPerOne) 1

/-- The exact multiple rounded once. -/
def times (x : Binary64) (factor : Nat) : Binary64 :=
  match x with
  | .finite s u => ofQuotient s (u * factor) 1
  | x => x

/-- The signed number of units of a finite number. -/
def signed (negative : Bool) (units : Nat) : Int :=
  if negative then -(units : Int) else units

def neg : Binary64 → Binary64
  | .nan => .nan
  | .infinity s => .infinity !s
  | .finite s u => .finite (!s) u

/-- The exact sum rounded once. Opposite numbers sum to positive zero. -/
def add : Binary64 → Binary64 → Binary64
  | .nan, _ => .nan
  | _, .nan => .nan
  | .infinity s, .infinity r => if s = r then .infinity s else .nan
  | .infinity s, .finite _ _ => .infinity s
  | .finite _ _, .infinity s => .infinity s
  | .finite s u, .finite r v =>
    let total := signed s u + signed r v
    if total = 0 then .finite (s && r) 0 else ofQuotient (total < 0) total.natAbs 1

def sub (x y : Binary64) : Binary64 :=
  x.add y.neg

/-- The order of the numbers; whatever is compared with no number at all, the answer is no. -/
def lt : Binary64 → Binary64 → Bool
  | .nan, _ => false
  | _, .nan => false
  | .infinity s, .infinity r => s && !r
  | .infinity s, .finite _ _ => s
  | .finite _ _, .infinity r => !r
  | .finite s u, .finite r v => signed s u < signed r v

/-- Numerical equality: the two zeros are equal, and what is no number equals nothing. -/
def eq : Binary64 → Binary64 → Bool
  | .finite s u, .finite r v => signed s u == signed r v
  | .infinity s, .infinity r => s == r
  | _, _ => false

def le (x y : Binary64) : Bool :=
  x.lt y || x.eq y

def isZero (x : Binary64) : Bool :=
  x.eq zero

/-- The second number if it is the smaller one, else the first. -/
def least (x y : Binary64) : Binary64 :=
  if y.lt x then y else x

end Binary64

end FormulaOcr
