/-! What makes a sequence of bytes unreadable as text. -/

namespace FormulaOcr

abbrev Bytes := List UInt8

namespace Encoding

inductive Reason
  | invalidStart
  | invalidContinuation
  | unexpectedEnd
  | truncated
  | outOfRange
deriving DecidableEq, Repr

def Reason.text : Reason → String
  | .invalidStart => "invalid start byte"
  | .invalidContinuation => "invalid continuation byte"
  | .unexpectedEnd => "unexpected end of data"
  | .truncated => "truncated data"
  | .outOfRange => "code point not in range(0x110000)"

/-- The bytes that stopped a decoder, with the place of the first of them. -/
structure Fault where
  codec : String
  start : Nat
  bytes : Bytes
  reason : Reason
deriving DecidableEq, Repr

def hexDigit (n : Nat) : Char :=
  "0123456789abcdef".toList.getD (n % 16) '0'

/-- The lowest `width` hexadecimal digits of a number. -/
def hexDigits : Nat → Nat → List Char
  | 0, _ => []
  | width + 1, n => hexDigits width (n / 16) ++ [hexDigit n]

def Fault.message (f : Fault) : String :=
  let place := match f.bytes with
    | [b] => s!"byte 0x{String.ofList (hexDigits 2 b.toNat)} in position {f.start}"
    | bytes => s!"bytes in position {f.start}-{f.start + bytes.length - 1}"
  s!"'{f.codec}' codec can't decode {place}: {f.reason.text}"

end Encoding

end FormulaOcr
