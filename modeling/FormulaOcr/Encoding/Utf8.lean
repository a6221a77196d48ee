import FormulaOcr.Encoding.Fault

/-! UTF-8: writing, strict reading, and reading in which each faulty stretch becomes U+FFFD. -/

namespace FormulaOcr.Encoding.Utf8

def encodeChar (c : Char) : Bytes :=
  let n := c.toNat
  let tail (bits : Nat) : UInt8 := .ofNat (0x80 + bits % 64)
  if n < 0x80 then [.ofNat n]
  else if n < 0x800 then [.ofNat (0xC0 + n / 64), tail n]
  else if n < 0x10000 then [.ofNat (0xE0 + n / 64 / 64), tail (n / 64), tail n]
  else [.ofNat (0xF0 + n / 64 / 64 / 64), tail (n / 64 / 64), tail (n / 64), tail n]

def encode (t : List Char) : Bytes :=
  t.flatMap encodeChar

def encodeString (s : String) : Bytes :=
  encode s.toList

/-- What stands at the front of a sequence of bytes: a character, half of a surrogate pair spelled
in three bytes, or a number of faulty bytes. -/
inductive Front
  | char (c : Char) (rest : Bytes)
  | surrogate (rest : Bytes)
  | fault (reason : Reason) (length : Nat)

def isTail (b : UInt8) : Bool :=
  0x80 ≤ b && b < 0xC0

def join (lead : Nat) (tails : List UInt8) : Char :=
  .ofNat (tails.foldl (fun n b => n * 64 + (b.toNat - 0x80)) lead)

/-- The second byte must be a tail byte that gives neither an overlong form, a surrogate nor a
number past the last code point. -/
def isSecond (lead second : UInt8) : Bool :=
  isTail second && !(lead == 0xE0 && second < 0xA0) && !(lead == 0xED && 0xA0 ≤ second) &&
    !(lead == 0xF0 && second < 0x90) && !(lead == 0xF4 && 0x90 ≤ second)

def front (lead : UInt8) (rest : Bytes) : Front :=
  if lead < 0x80 then .char (.ofNat lead.toNat) rest
  else if lead < 0xC2 || 0xF5 ≤ lead then .fault .invalidStart 1
  else if lead < 0xE0 then
    match rest with
    | [] => .fault .unexpectedEnd 1
    | b :: rest =>
      if isTail b then .char (join (lead.toNat - 0xC0) [b]) rest else .fault .invalidContinuation 1
  else if lead < 0xF0 then
    match rest with
    | [] => .fault .unexpectedEnd 1
    | [b] => if isSecond lead b then .fault .unexpectedEnd 2 else .fault .invalidContinuation 1
    | b :: c :: rest =>
      if lead == 0xED && isTail b && 0xA0 ≤ b && isTail c then .surrogate rest
      else if !isSecond lead b then .fault .invalidContinuation 1
      else if !isTail c then .fault .invalidContinuation 2
      else .char (join (lead.toNat - 0xE0) [b, c]) rest
  else
    match rest with
    | [] => .fault .unexpectedEnd 1
    | [b] => if isSecond lead b then .fault .unexpectedEnd 2 else .fault .invalidContinuation 1
    | [b, c] =>
      if !isSecond lead b then .fault .invalidContinuation 1
      else if isTail c then .fault .unexpectedEnd 3 else .fault .invalidContinuation 2
    | b :: c :: d :: rest =>
      if !isSecond lead b then .fault .invalidContinuation 1
      else if !isTail c then .fault .invalidContinuation 2
      else if !isTail d then .fault .invalidContinuation 3
      else .char (join (lead.toNat - 0xF0) [b, c, d]) rest

/-- The character that stands for what cannot be decoded. -/
def replacement : Char := .ofNat 0xFFFD

/-- Strict decoding from byte `place` on. With `lenient`, halves of surrogate pairs are let
through as replacement characters. -/
def decodeFrom (lenient : Bool) : Nat → Nat → Bytes → Except Fault (List Char)
  | _, _, [] => .ok []
  | 0, _, _ :: _ => .ok []
  | fuel + 1, place, b :: rest =>
    match front b rest with
    | .char c after =>
      (decodeFrom lenient fuel (place + (rest.length + 1 - after.length)) after).map (c :: ·)
    | .surrogate after =>
      if lenient then (decodeFrom lenient fuel (place + 3) after).map (replacement :: ·)
      else .error ⟨"utf-8", place, [b], .invalidContinuation⟩
    | .fault reason length => .error ⟨"utf-8", place, (b :: rest).take length, reason⟩

def decode (bytes : Bytes) : Except Fault (List Char) :=
  decodeFrom false bytes.length 0 bytes

def decodeLenient (bytes : Bytes) : Except Fault (List Char) :=
  decodeFrom true bytes.length 0 bytes

/-- Decoding that never fails: each faulty stretch gives one replacement character. -/
def decodeLossyFrom : Nat → Bytes → List Char
  | _, [] => []
  | 0, _ :: _ => []
  | fuel + 1, b :: rest =>
    match front b rest with
    | .char c after => c :: decodeLossyFrom fuel after
    | .surrogate _ => replacement :: decodeLossyFrom fuel rest
    | .fault _ length => replacement :: decodeLossyFrom fuel ((b :: rest).drop length)

def decodeLossy (bytes : Bytes) : List Char :=
  decodeLossyFrom bytes.length bytes

end FormulaOcr.Encoding.Utf8
