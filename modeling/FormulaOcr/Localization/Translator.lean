import FormulaOcr.Fault
import FormulaOcr.Localization.Catalogue

/-! Translators: tables of messages laid over each other, a later one winning, and looked up by
key. A key without a message stands for itself. -/

namespace FormulaOcr.Localization

structure Translator where
  messages : Dictionary Json

/-- The key and the value of an item of a table given as pairs. Other keys than texts are never
looked up. -/
def tablePair (index : Nat) (item : Json) : Except TableFault (Option (String × Json)) :=
  let pair (items : List Json) : Except TableFault (Option (String × Json)) :=
    match items with
    | [.str key, value] => .ok (some (key, value))
    | [key@(.arr _), _] | [key@(.obj _), _] => .error (.unhashable key.kind)
    | [_, _] => .ok none
    | items => .error (.pairLength index items.length)
  match item with
  | .arr items => pair items
  | .obj members => pair (members.map fun member => .str member.1)
  | .str s => pair (s.toList.map fun c => .str (.singleton c))
  | _ => .error (.notPair index)

/-- The items of a table given as pairs, counted from `index` on. -/
def tablePairs (index : Nat) : List Json → Except TableFault (Dictionary Json)
  | [] => .ok []
  | item :: items => do
    let first ← tablePair index item
    let rest ← tablePairs (index + 1) items
    return first.toList ++ rest

/-- The messages of a table: an object, or a list of pairs. -/
def tableEntries : Json → Except TableFault (Dictionary Json)
  | .obj members => .ok members
  | .arr items => tablePairs 0 items
  | .str s => tablePairs 0 (s.toList.map fun c => .str (.singleton c))
  | j => .error (.notIterable j.kind)

/-- The table in a file of a directory. A file that is not there holds none. -/
def readTable (disk : Disk) (directory : Path) (language : String) :
    Except Crash (Dictionary Json) := do
  let path := directory.child (language ++ ".json")
  if ← (disk.hasFile path).mapError .disk then
    match disk.readText path with
    | .error (.disk f) => throw (.disk f)
    | .error (.encoding f) => throw (.encoding f)
    | .ok text =>
      let table ← (Json.read text).mapError .json
      (tableEntries table).mapError .table
  else return []

/-- The translator for a language: the built-in English messages, then the tables for English, for
the fallback and for the language, then what the host overrides. -/
def Translator.load (disk : Disk) (directory : Path) (language fallback : String)
    (overrides : Json) : Except Crash Translator := do
  let file (name : String) : Except Crash (Dictionary Json) := readTable disk directory name
  let messages := Dictionary.merge [] (builtIn.map fun (key, text) => (key, .str text))
  let messages := messages.merge (← file "en")
  let messages := messages.merge (← if fallback = "en" then .ok [] else file fallback)
  let known := language = "en" || language = fallback
  let messages := messages.merge (← if known then .ok [] else file language)
  let host ← if overrides.isTruthy then (tableEntries overrides).mapError .table else .ok []
  return ⟨messages.merge host⟩

/-- The message for a key. Only a message that mentions values is read as a template. -/
def Translator.translate (t : Translator) (key : String) (values : Dictionary Json) :
    Except Crash Json := do
  checkNames "I18n.__call__" ["self", "key"] values
  let template := (t.messages.find? key).getD (.str key)
  if values.isEmpty then return template
  else match template with
    | .str s => return .str (.ofList (← (fill values s.toList).mapError .template))
    | j => throw (.noSuchOperation j.kind "format")

end FormulaOcr.Localization
