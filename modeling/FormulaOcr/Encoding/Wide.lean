import FormulaOcr.Encoding.Utf8

/-! Reading UTF-16 and UTF-32. Halves of surrogate pairs that stand alone are let through as
replacement characters. -/

namespace FormulaOcr.Encoding.Wide

inductive ByteOrder
  | little
  | big
deriving DecidableEq, Repr

def ByteOrder.suffix : ByteOrder → String
  | .little => "le"
  | .big => "be"

/-- The number spelled by some bytes in the given order. -/
def ByteOrder.number (order : ByteOrder) (bytes : Bytes) : Nat :=
  let mostFirst := match order with
    | .little => bytes.reverse
    | .big => bytes
  mostFirst.foldl (fun n b => n * 256 + b.toNat) 0

def isHighSurrogate (n : Nat) : Bool :=
  0xD800 ≤ n && n < 0xDC00

def isLowSurrogate (n : Nat) : Bool :=
  0xDC00 ≤ n && n < 0xE000

/-- The code point that a surrogate pair stands for. -/
def pair (high low : Nat) : Nat :=
  0x10000 + (high - 0xD800) * 0x400 + (low - 0xDC00)

/-- The character with this code point; a surrogate has none. -/
def charOf (n : Nat) : Char :=
  if isHighSurrogate n || isLowSurrogate n then Utf8.replacement else .ofNat n

def decode16From (order : ByteOrder) : Nat → Bytes → Except Fault (List Char)
  | place, a :: b :: c :: d :: rest =>
    let unit := order.number [a, b]
    let next := order.number [c, d]
    if isHighSurrogate unit && isLowSurrogate next then
      (decode16From order (place + 4) rest).map (Char.ofNat (pair unit next) :: ·)
    else (decode16From order (place + 2) (c :: d :: rest)).map (charOf unit :: ·)
  | place, [_, _, c] =>
    .error ⟨"utf-16-" ++ order.suffix, place + 2, [c], .truncated⟩
  | _, [a, b] => .ok [charOf (order.number [a, b])]
  | place, [a] => .error ⟨"utf-16-" ++ order.suffix, place, [a], .truncated⟩
  | _, [] => .ok []

def decode32From (order : ByteOrder) : Nat → Bytes → Except Fault (List Char)
  | place, a :: b :: c :: d :: rest =>
    let n := order.number [a, b, c, d]
    if n < 0x110000 then (decode32From order (place + 4) rest).map (charOf n :: ·)
    else .error ⟨"utf-32-" ++ order.suffix, place, [a, b, c, d], .outOfRange⟩
  | _, [] => .ok []
  | place, rest => .error ⟨"utf-32-" ++ order.suffix, place, rest, .truncated⟩

end FormulaOcr.Encoding.Wide
