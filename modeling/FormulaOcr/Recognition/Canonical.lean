import FormulaOcr.Text.Blank
import FormulaOcr.Text.Search

/-! The canonical white space of a formula, in which two transcriptions are compared: runs of blanks
are one space, and spaces beside a symbol are dropped. A space between a command and a letter stays,
so `\alpha b` and `\alphab` differ. -/

namespace FormulaOcr.Recognition

/-- Each run of blanks becomes one space; `inRun` says that a blank stands before the text. -/
def collapse (inRun : Bool) : List Char → List Char
  | [] => []
  | c :: rest =>
    if Text.isBlank c then
      if inRun then collapse true rest else ' ' :: collapse true rest
    else c :: collapse false rest

/-- Drops each space in front of a symbol. -/
def dropSpaceBefore : List Char → List Char
  | [] => []
  | [c] => [c]
  | c :: d :: rest =>
    if c = ' ' && !Text.isAsciiAlphanumeric d then dropSpaceBefore (d :: rest)
    else c :: dropSpaceBefore (d :: rest)

/-- Characters behind which a space is dropped: neither letters nor digits, and not the backslash
that makes a command of the space. -/
def isSymbol (c : Char) : Bool :=
  !Text.isAsciiAlphanumeric c && c != ' ' && c != '\\'

/-- Drops each space behind a symbol; `previous` is the character before the text. -/
def dropSpaceAfter (previous : Option Char) : List Char → List Char
  | [] => []
  | c :: rest =>
    if c = ' ' && previous.any isSymbol then dropSpaceAfter (some c) rest
    else c :: dropSpaceAfter (some c) rest

def canonical (t : List Char) : List Char :=
  dropSpaceAfter none (dropSpaceBefore (collapse false (Text.trim t)))

def normalize (s : String) : String :=
  String.ofList (canonical s.toList)

end FormulaOcr.Recognition
