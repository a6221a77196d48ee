import FormulaOcr.Encoding.Wide

/-! Reading bytes whose Unicode encoding is not announced. A byte order mark decides; without one,
the places of the zero bytes among the first four do, because a JSON text begins with two ASCII
characters. -/

namespace FormulaOcr.Encoding

open Wide (ByteOrder)

inductive Scheme
  | utf8
  | utf16 (order : ByteOrder)
  | utf32 (order : ByteOrder)
deriving DecidableEq, Repr

/-- The encoding of some bytes, with the length of their byte order mark. -/
def detect : Bytes → Scheme × Nat
  | 0x00 :: 0x00 :: 0xFE :: 0xFF :: _ => (.utf32 .big, 4)
  | 0xFF :: 0xFE :: 0x00 :: 0x00 :: _ => (.utf32 .little, 4)
  | 0xFE :: 0xFF :: _ => (.utf16 .big, 2)
  | 0xFF :: 0xFE :: _ => (.utf16 .little, 2)
  | 0xEF :: 0xBB :: 0xBF :: _ => (.utf8, 3)
  | a :: b :: c :: d :: _ =>
    if a == 0 then (if b == 0 then .utf32 .big else .utf16 .big, 0)
    else if b == 0 then (if c == 0 && d == 0 then .utf32 .little else .utf16 .little, 0)
    else (.utf8, 0)
  | [a, b] =>
    if a == 0 then (.utf16 .big, 0) else if b == 0 then (.utf16 .little, 0) else (.utf8, 0)
  | _ => (.utf8, 0)

/-- The text of some bytes in the encoding that they show, without the byte order mark. -/
def decodeDetected (bytes : Bytes) : Except Fault (List Char) :=
  match detect bytes with
  | (.utf8, mark) => Utf8.decodeLenient (bytes.drop mark)
  | (.utf16 order, mark) => Wide.decode16From order mark (bytes.drop mark)
  | (.utf32 order, mark) => Wide.decode32From order mark (bytes.drop mark)

end FormulaOcr.Encoding
