import FormulaOcr.Json.Writer
import FormulaOcr.World

/-! The settings store: credentials and preferences by name, in memory and in a file of the data
directory. Every change is written at once. -/

namespace FormulaOcr

namespace Store

def filename : String := "config.json"

def tokenName : String := "simpletex_token"

def keyName : String := "siliconflow_key"

def modelName : String := "simpletex_model"

def vouchersName : String := "voucher_models"

/-- The values of a store that holds none of its own. -/
def defaults : Dictionary Json :=
  [(tokenName, .str ""), (keyName, .str ""), (vouchersName, .arr [])]

/-- The values in a file; anything but an object holds none. -/
def valuesOf (content : Option Json) : Dictionary Json :=
  (content.bind Json.members?).getD []

/-- The text of the file that holds some values. -/
def fileText (values : Dictionary Json) : List Char :=
  Json.write Json.indented (.obj values)

def missing (values : Dictionary Json) : Dictionary Json :=
  defaults.filter fun (name, _) => !values.has name

def get? (s : Store) (name : String) : Option Json :=
  s.values.find? name

/-- The text under a name; empty if there is none. -/
def text (s : Store) (name : String) : String :=
  ((s.get? name).bind Json.text?).getD ""

/-- The texts in the list under a name. -/
def texts (s : Store) (name : String) : List String :=
  match s.get? name with
  | some (.arr items) => items.filterMap Json.text?
  | _ => []

end Store

namespace Action

/-- The store of the process. A process that has none yet holds no values. -/
def store : Action Store := do
  return (← get).store.getD ⟨⟨"", []⟩, []⟩

/-- Takes over new values and writes them. What cannot be written is still taken over. -/
def saveStore (s : Store) : Action Unit := do
  modify fun w => { w with store := some s }
  writeFile s.path (Store.fileText s.values)

def setStored (name : String) (value : Json) : Action Unit := do
  let s ← store
  saveStore { s with values := s.values.assign name value }

/-- Adds the defaults that are missing. -/
def ensureDefaults : Action Unit := do
  let s ← store
  let missing := Store.missing s.values
  if !missing.isEmpty then saveStore { s with values := s.values.merge missing }

/-- Opens the store on first use. It counts as open even if its defaults cannot be written. -/
def openStore : Action Unit := do
  if (← get).store.isNone then
    let path := (← dataDirectory).child Store.filename
    let values := Store.valuesOf (← readFile path)
    modify fun w => { w with store := some ⟨path, values⟩ }
    ensureDefaults

def storedText (name : String) : Action String := do
  return (← store).text name

def storedTexts (name : String) : Action (List String) := do
  return (← store).texts name

end Action

end FormulaOcr
