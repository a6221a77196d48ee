/-! Cutting a text into lines. -/

namespace FormulaOcr.Text

/-- The characters that end a line. A carriage return followed by a line feed ends one line, not
two. -/
def isLineBreak (c : Char) : Bool :=
  (0xA ≤ c.toNat && c.toNat ≤ 0xD) || (0x1C ≤ c.toNat && c.toNat ≤ 0x1E) ||
    c.toNat == 0x85 || c.toNat == 0x2028 || c.toNat == 0x2029

/-- The lines of a text whose current line already holds `held`, newest character first. A final
line break opens no further line. -/
def linesFrom (held : List Char) : List Char → List (List Char)
  | [] => if held.isEmpty then [] else [held.reverse]
  | '\r' :: '\n' :: rest => held.reverse :: linesFrom [] rest
  | c :: rest =>
    if isLineBreak c then held.reverse :: linesFrom [] rest else linesFrom (c :: held) rest

def lines (t : List Char) : List (List Char) :=
  linesFrom [] t

/-- A text in which each of the three common line endings is a line feed. -/
def withLineFeeds : List Char → List Char
  | [] => []
  | '\r' :: '\n' :: rest => '\n' :: withLineFeeds rest
  | c :: rest => (if c = '\r' then '\n' else c) :: withLineFeeds rest

end FormulaOcr.Text
