/-! Blank characters, and trimming them from both ends of a text. -/

namespace FormulaOcr.Text

/-- The code points that count as white space, as inclusive ranges. -/
def blankRanges : List (Nat × Nat) :=
  [(0x9, 0xD), (0x1C, 0x20), (0x85, 0x85), (0xA0, 0xA0), (0x1680, 0x1680), (0x2000, 0x200A),
   (0x2028, 0x2029), (0x202F, 0x202F), (0x205F, 0x205F), (0x3000, 0x3000)]

def isBlank (c : Char) : Bool :=
  blankRanges.any fun (low, high) => low ≤ c.toNat && c.toNat ≤ high

def trimStart (t : List Char) : List Char :=
  t.dropWhile isBlank

def trimEnd (t : List Char) : List Char :=
  (t.reverse.dropWhile isBlank).reverse

def trim (t : List Char) : List Char :=
  trimEnd (trimStart t)

/-- A text without the blanks at its two ends. -/
def trimmed (s : String) : String :=
  String.ofList (trim s.toList)

end FormulaOcr.Text
