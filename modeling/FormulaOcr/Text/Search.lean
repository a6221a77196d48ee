/-! Finding and cutting pieces of a text. -/

namespace FormulaOcr.Text

/-- The needle stands somewhere in the text. -/
def occurs (needle : List Char) : List Char → Bool
  | [] => needle.isEmpty
  | c :: rest => needle.isPrefixOf (c :: rest) || occurs needle rest

/-- What stands before and after the first `mark`, if there is one. -/
def splitFirst (mark : Char) : List Char → Option (List Char × List Char)
  | [] => none
  | c :: rest =>
    if c = mark then some ([], rest)
    else (splitFirst mark rest).map fun (before, behind) => (c :: before, behind)

/-- What stands after the last `mark`, or the whole text when there is none. -/
def afterLast (mark : Char) (t : List Char) : List Char :=
  (t.reverse.takeWhile (· != mark)).reverse

/-- The text without the word at its front, if it begins with that word. -/
def dropFront? (word t : List Char) : Option (List Char) :=
  if word.isPrefixOf t then some (t.drop word.length) else none

/-- The text without the word at its end; a text that ends otherwise is kept. -/
def dropBack (word t : List Char) : List Char :=
  if word.isSuffixOf t then t.take (t.length - word.length) else t

def isAsciiDigit (c : Char) : Bool :=
  '0'.toNat ≤ c.toNat && c.toNat ≤ '9'.toNat

def isAsciiLetter (c : Char) : Bool :=
  ('a'.toNat ≤ c.toNat && c.toNat ≤ 'z'.toNat) || ('A'.toNat ≤ c.toNat && c.toNat ≤ 'Z'.toNat)

def isAsciiAlphanumeric (c : Char) : Bool :=
  isAsciiDigit c || isAsciiLetter c

end FormulaOcr.Text
