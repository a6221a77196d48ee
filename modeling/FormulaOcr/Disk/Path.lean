import FormulaOcr.Text.Search

/-! Paths of files. Empty and single-dot steps are dropped, double dots are kept. -/

namespace FormulaOcr

/-- The slashes at the front, none, one or two, and the steps behind them. -/
structure Path where
  root : String
  steps : List String
deriving DecidableEq, Repr

namespace Path

/-- The pieces between the slashes of a text; `held` is the current one, newest character first. -/
def pieces (held : List Char) : List Char → List (List Char)
  | [] => [held.reverse]
  | c :: rest => if c = '/' then held.reverse :: pieces [] rest else pieces (c :: held) rest

def ofString (s : String) : Path :=
  let slashes := (s.toList.takeWhile (· == '/')).length
  { root := if slashes = 0 then "" else if slashes = 2 then "//" else "/"
    steps := ((pieces [] s.toList).filter fun t => t != [] && t != ['.']).map String.ofList }

/-- The steps of a path with slashes between them. -/
def joined : List String → String
  | [] => ""
  | [step] => step
  | step :: steps => step ++ "/" ++ joined steps

def toString (p : Path) : String :=
  if p.root = "" && p.steps.isEmpty then "." else p.root ++ joined p.steps

/-- A path seen from another one; an absolute path stands for itself. -/
def append (p q : Path) : Path :=
  if q.root = "" then { p with steps := p.steps ++ q.steps } else q

def child (p : Path) (text : String) : Path :=
  p.append (ofString text)

/-- The home directory, of which the slashes at the end do not count. A home that is itself given
from a home is none. -/
def ofHome? (home : String) : Option Path :=
  let bare := (home.toList.reverse.dropWhile (· == '/')).reverse
  match bare with
  | [] => some (ofString "/")
  | '~' :: _ => none
  | _ => some (ofString (.ofList bare))

/-- A path that begins with a tilde, seen from the home directory; nothing for the home of another
user. -/
def expandHome? (home : Option String) (p : Path) : Option Path :=
  match p.root, p.steps with
  | "", first :: rest =>
    if first = "~" then
      (home.bind ofHome?).map fun start => { start with steps := start.steps ++ rest }
    else if first.toList.head? = some '~' then none
    else some p
  | _, _ => some p

end Path

end FormulaOcr
