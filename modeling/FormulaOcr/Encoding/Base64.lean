import FormulaOcr.Encoding.Fault

/-! Base64 with the standard alphabet, and a strict reader of it. -/

namespace FormulaOcr.Encoding.Base64

def alphabet : List Char :=
  "ABCDEFGHIJKLMNOPQRSTUVWXYZabcdefghijklmnopqrstuvwxyz0123456789+/".toList

def letter (n : Nat) : Char :=
  alphabet.getD (n % 64) 'A'

def value? (c : Char) : Option Nat :=
  alphabet.idxOf? c

def encode : Bytes → List Char
  | a :: b :: c :: rest =>
    letter (a.toNat / 4) :: letter (a.toNat * 16 + b.toNat / 16) ::
      letter (b.toNat * 4 + c.toNat / 64) :: letter c.toNat :: encode rest
  | [a, b] =>
    [letter (a.toNat / 4), letter (a.toNat * 16 + b.toNat / 16), letter (b.toNat * 4), '=']
  | [a] => [letter (a.toNat / 4), letter (a.toNat * 16), '=', '=']
  | [] => []

inductive Fault
  | notAscii
  | leadingPadding
  | excessData
  | badCharacter
  | discontinuousPadding
  | lonelyCharacter (count : Nat)
  | missingPadding
deriving DecidableEq, Repr

def Fault.message : Fault → String
  | .notAscii => "string argument should contain only ASCII characters"
  | .leadingPadding => "Leading padding not allowed"
  | .excessData => "Excess data after padding"
  | .badCharacter => "Only base64 data is allowed"
  | .discontinuousPadding => "Discontinuous padding not allowed"
  | .lonelyCharacter count =>
    s!"Invalid base64-encoded string: number of data characters ({count}) cannot be " ++
      "1 more than a multiple of 4"
  | .missingPadding => "Incorrect padding"

/-- How far a reader is: the data characters so far, the value of the last of them, the padding
characters since then, and whether padding has begun. -/
structure Progress where
  count : Nat
  last : Nat
  pads : Nat
  padded : Bool

/-- The byte that is complete once a data character follows `count` others. -/
def completed (count last value : Nat) : Bytes :=
  match count % 4 with
  | 0 => []
  | 1 => [.ofNat (last * 4 + value / 16)]
  | 2 => [.ofNat (last * 16 + value / 4)]
  | _ => [.ofNat (last * 64 + value)]

def decodeFrom (p : Progress) : List Char → Except Fault Bytes
  | [] =>
    match p.count % 4 with
    | 0 => .ok []
    | 1 => .error (.lonelyCharacter p.count)
    | _ => .error .missingPadding
  | c :: rest =>
    if c = '=' then
      if p.count % 4 < 2 then decodeFrom { p with padded := true } rest
      else if 4 ≤ p.count % 4 + p.pads + 1 then
        if rest.isEmpty then .ok [] else .error .excessData
      else decodeFrom { p with pads := p.pads + 1, padded := true } rest
    else
      match value? c with
      | none => .error .badCharacter
      | some v =>
        if p.padded then .error .discontinuousPadding
        else (decodeFrom ⟨p.count + 1, v, 0, p.padded⟩ rest).map (completed p.count p.last v ++ ·)

/-- Strict reading: nothing but data characters and one run of padding where it is due. -/
def decode (t : List Char) : Except Fault Bytes :=
  if t.any (128 ≤ ·.toNat) then .error .notAscii
  else if t.head? = some '=' then .error .leadingPadding
  else decodeFrom ⟨0, 0, 0, false⟩ t

end FormulaOcr.Encoding.Base64
