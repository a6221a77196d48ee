import FormulaOcr.Dictionary
import FormulaOcr.Number.Reading

/-! The public price list. Each of its rows is a link to a model followed by two cells, the price of
input and the price of output; a free model has a marker in place of a number. -/

namespace FormulaOcr.SiliconFlow

/-- Prices in yuan for a million tokens. -/
structure Pricing where
  input : Binary64
  output : Binary64
deriving DecidableEq, Repr

def Pricing.isFree (p : Pricing) : Bool :=
  p.input.isZero && p.output.isZero

def freeMarker : List Char := "免费".toList

/-- A row as it stands on the page. -/
structure Row where
  name : List Char
  input : List Char
  output : List Char

/-- A target is named in an address: the word is there and something follows it. -/
def namesTarget : List Char → Bool
  | [] => false
  | c :: rest =>
    match Text.dropFront? "target=".toList (c :: rest) with
    | some name => !name.isEmpty
    | none => namesTarget rest

/-- A non-empty run of characters that ends at `stop`, and the text from `stop` on. -/
def runUpTo? (stop : Char) (t : List Char) : Option (List Char × List Char) :=
  let run := t.takeWhile (· != stop)
  if run.isEmpty then none else some (run, t.dropWhile (· != stop))

/-- The text behind the first `stop`. -/
def behind? (stop : Char) (t : List Char) : Option (List Char) :=
  (Text.splitFirst stop t).map (·.2)

def isPriceChar (c : Char) : Bool :=
  c == '.' || Text.isDigit c

/-- A price cell: its content, and the text behind it. -/
def cell? (t : List Char) : Option (List Char × List Char) := do
  let t ← Text.dropFront? "<div".toList t
  let t ← behind? '>' t
  let (content, t) := match Text.dropFront? freeMarker t with
    | some rest => (freeMarker, rest)
    | none => (t.takeWhile isPriceChar, t.dropWhile isPriceChar)
  if content.isEmpty then none
  let t ← Text.dropFront? "</div>".toList t
  return (content, t)

/-- A row that begins at the front of the text, and the text behind it. -/
def row? (t : List Char) : Option (Row × List Char) := do
  let t ← Text.dropFront? "href=\"".toList t
  let (address, t) ← Text.splitFirst '"' t
  if !namesTarget address then none
  let t ← behind? '>' t
  let (name, t) ← runUpTo? '<' t
  let t ← Text.dropFront? "</a></div>".toList t
  let (input, t) ← cell? t
  let (output, t) ← cell? t
  return (⟨name, input, output⟩, t)

/-- The rows of a page in page order. The first argument bounds the number of steps. -/
def rowsFrom : Nat → List Char → List Row
  | 0, _ => []
  | _, [] => []
  | fuel + 1, c :: rest =>
    match row? (c :: rest) with
    | some (row, behind) => row :: rowsFrom fuel behind
    | none => rowsFrom fuel rest

def rows (page : List Char) : List Row :=
  rowsFrom page.length page

def price? (content : List Char) : Option Binary64 :=
  if content = freeMarker then some .zero else Number.binary64? content

/-- The prices on a page by model id, in page order. A row without two readable prices is left
out; a later row for a model replaces the prices of an earlier one. -/
def pricesOn (page : List Char) : Dictionary Pricing :=
  (rows page).foldl (fun prices row =>
    match price? row.input, price? row.output with
    | some input, some output =>
      Dictionary.assign prices (.ofList (Text.trim row.name)) ⟨input, output⟩
    | _, _ => prices) []

end FormulaOcr.SiliconFlow
