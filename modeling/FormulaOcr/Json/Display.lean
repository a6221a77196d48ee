import FormulaOcr.Encoding.Fault
import FormulaOcr.Json.Value
import FormulaOcr.Number.Decimal
import FormulaOcr.Text.Printable

/-! The form of a value inside a message: a text stands as it is, and inside a list or an object it
is quoted. -/

namespace FormulaOcr.Json

/-- A character spelled by its number. -/
def spelledChar (c : Char) : List Char :=
  if c.toNat < 0x100 then '\\' :: 'x' :: Encoding.hexDigits 2 c.toNat
  else if c.toNat < 0x10000 then '\\' :: 'u' :: Encoding.hexDigits 4 c.toNat
  else '\\' :: 'U' :: Encoding.hexDigits 8 c.toNat

/-- A character in a text quoted by `quote`. -/
def quoteChar (quote c : Char) : List Char :=
  if c = quote || c = '\\' then ['\\', c]
  else if c = '\n' then ['\\', 'n']
  else if c = '\r' then ['\\', 'r']
  else if c = '\t' then ['\\', 't']
  else if Text.isPrintable c then [c]
  else spelledChar c

/-- A text in single quotes, or in double quotes if it has single quotes and no double ones. -/
def quoted (t : List Char) : List Char :=
  let quote := if t.contains '\'' && !t.contains '"' then '"' else '\''
  quote :: t.flatMap (quoteChar quote) ++ [quote]

def quotedString (s : String) : String :=
  String.ofList (quoted s.toList)

/-- Pieces with a comma and a space between them. -/
def commaSeparated : List (List Char) → List Char
  | [] => []
  | [piece] => piece
  | piece :: pieces => piece ++ [',', ' '] ++ commaSeparated pieces

mutual

/-- The form of a value inside a list or an object. -/
def literal : Json → List Char
  | .null => "None".toList
  | .bool true => "True".toList
  | .bool false => "False".toList
  | .int n => Binary64.withSign (n < 0) (Nat.toDigits 10 n.natAbs)
  | .float x => x.repr
  | .str s => quoted s.toList
  | .arr items => '[' :: commaSeparated (itemLiterals items) ++ [']']
  | .obj members => '{' :: commaSeparated (memberLiterals members) ++ ['}']

def itemLiterals : List Json → List (List Char)
  | [] => []
  | item :: items => literal item :: itemLiterals items

def memberLiterals : List (String × Json) → List (List Char)
  | [] => []
  | member :: members => memberLiteral member :: memberLiterals members

def memberLiteral : String × Json → List Char
  | (name, value) => quoted name.toList ++ [':', ' '] ++ literal value

end

/-- A text in which characters outside ASCII are spelled by their numbers. -/
def inAscii (t : List Char) : List Char :=
  t.flatMap fun c => if c.toNat < 0x80 then [c] else spelledChar c

/-- The form of a value inside a message. -/
def display : Json → String
  | .str s => s
  | j => String.ofList (literal j)

end FormulaOcr.Json
