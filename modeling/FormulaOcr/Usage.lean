import FormulaOcr.Json.Writer
import FormulaOcr.World

/-! Counters of recognitions by model, for one day. The counts of another day are none. -/

namespace FormulaOcr

structure Usage where
  date : String := ""
  counts : Dictionary Nat := []
deriving DecidableEq, Repr

namespace Usage

def filename : String := "usage.json"

/-- A whole number that is not negative. -/
def count? : Json → Option Nat
  | .int n => if 0 ≤ n then some n.toNat else none
  | _ => none

/-- The counts in a file; entries that are no counts are left out. -/
def ofJson : Json → Usage
  | j@(.obj _) =>
    { date := ((j.member "date").text?).getD ""
      counts := (((j.member "models").members?).getD []).filterMap fun (id, value) =>
        (count? value).map (id, ·) }
  | _ => {}

def toJson (u : Usage) : Json :=
  .obj
    [("date", .str u.date),
     ("models", .obj (u.counts.map fun (id, count) => (id, .int count)))]

def fileText (u : Usage) : List Char :=
  Json.write Json.indentedAscii u.toJson

/-- The count of a model on a day. -/
def on (u : Usage) (day id : String) : Nat :=
  if u.date = day then (u.counts.find? id).getD 0 else 0

/-- The counters after one more recognition on a day. -/
def increment (u : Usage) (day id : String) : Usage :=
  let u := if u.date = day then u else { date := day }
  { u with counts := u.counts.assign id ((u.counts.find? id).getD 0 + 1) }

end Usage

namespace Action

/-- The file of the counters, chosen on first use. -/
def counterPath : Action Path := do
  match (← get).counterPath with
  | some path => return path
  | none =>
    let path := (← dataDirectory).child Usage.filename
    modify fun w => { w with counterPath := some path }
    return path

/-- The counters in the file; a file that cannot be read holds none. -/
def loadUsage : Action Usage := do
  return ((← readFile (← counterPath)).map Usage.ofJson).getD {}

def usageToday (id : String) : Action Nat := do
  return (← loadUsage).on (← get).today id

/-- Today's counts of some models, each of them once. -/
def usageByModel (ids : List String) : Action (Dictionary Nat) :=
  ids.foldlM (fun counts id => return Dictionary.assign counts id (← usageToday id)) []

def countRecognition (id : String) : Action Unit := do
  let path ← counterPath
  let usage ← loadUsage
  writeFile path (usage.increment (← get).today id).fileText

end Action

end FormulaOcr
