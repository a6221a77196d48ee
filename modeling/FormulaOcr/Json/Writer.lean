import FormulaOcr.Encoding.Fault
import FormulaOcr.Json.Value
import FormulaOcr.Number.Decimal

/-! Writing JSON texts, on one line or with one member or item to a line. -/

namespace FormulaOcr.Json

/-- How a text is laid out: the width of one indentation step, if lines are broken at all, and
whether characters outside ASCII are spelled as escapes. -/
structure Layout where
  indent : Option Nat
  ascii : Bool

def unicodeEscape (unit : Nat) : List Char :=
  '\\' :: 'u' :: Encoding.hexDigits 4 unit

/-- The escapes of a character, two of them for one beyond the first 65536. -/
def escape (c : Char) : List Char :=
  if c.toNat < 0x10000 then unicodeEscape c.toNat
  else unicodeEscape (0xD800 + (c.toNat - 0x10000) / 0x400) ++
    unicodeEscape (0xDC00 + (c.toNat - 0x10000) % 0x400)

def writeChar (ascii : Bool) (c : Char) : List Char :=
  if c = '"' then ['\\', '"']
  else if c = '\\' then ['\\', '\\']
  else if c = '\n' then ['\\', 'n']
  else if c = '\r' then ['\\', 'r']
  else if c = '\t' then ['\\', 't']
  else if c = '\x08' then ['\\', 'b']
  else if c = '\x0c' then ['\\', 'f']
  else if c.toNat < 0x20 || (ascii && 0x7F ≤ c.toNat) then escape c
  else [c]

def writeString (ascii : Bool) (s : String) : List Char :=
  '"' :: s.toList.flatMap (writeChar ascii) ++ ['"']

def writeInt (n : Int) : List Char :=
  Binary64.withSign (n < 0) (Nat.toDigits 10 n.natAbs)

def writeFloat : Binary64 → List Char
  | .nan => "NaN".toList
  | .infinity negative => Binary64.withSign negative "Infinity".toList
  | x => x.repr

/-- What stands between two brackets or commas at a nesting level. -/
def Layout.break (l : Layout) (level : Nat) : List Char :=
  match l.indent with
  | none => []
  | some width => '\n' :: List.replicate (width * level) ' '

def Layout.comma (l : Layout) (level : Nat) : List Char :=
  match l.indent with
  | none => [',', ' ']
  | some _ => ',' :: l.break level

mutual

def writeValue (l : Layout) (level : Nat) : Json → List Char
  | .null => "null".toList
  | .bool true => "true".toList
  | .bool false => "false".toList
  | .int n => writeInt n
  | .float x => writeFloat x
  | .str s => writeString l.ascii s
  | .arr [] => ['[', ']']
  | .arr (item :: items) =>
    '[' :: l.break (level + 1) ++ writeValue l (level + 1) item ++
      writeItems l (level + 1) items ++ l.break level ++ [']']
  | .obj [] => ['{', '}']
  | .obj (member :: members) =>
    '{' :: l.break (level + 1) ++ writeMember l (level + 1) member ++
      writeMembers l (level + 1) members ++ l.break level ++ ['}']

def writeItems (l : Layout) (level : Nat) : List Json → List Char
  | [] => []
  | item :: items => l.comma level ++ writeValue l level item ++ writeItems l level items

def writeMembers (l : Layout) (level : Nat) : List (String × Json) → List Char
  | [] => []
  | member :: members => l.comma level ++ writeMember l level member ++ writeMembers l level members

def writeMember (l : Layout) (level : Nat) : String × Json → List Char
  | (name, value) => writeString l.ascii name ++ [':', ' '] ++ writeValue l level value

end

def write (l : Layout) (j : Json) : List Char :=
  writeValue l 0 j

/-- One line, all characters as they are. -/
def oneLine : Layout := ⟨none, false⟩

/-- One line, ASCII only. -/
def oneLineAscii : Layout := ⟨none, true⟩

/-- Two columns to a level, all characters as they are. -/
def indented : Layout := ⟨some 2, false⟩

/-- Two columns to a level, ASCII only. -/
def indentedAscii : Layout := ⟨some 2, true⟩

end FormulaOcr.Json
