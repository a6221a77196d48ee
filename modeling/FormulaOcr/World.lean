import FormulaOcr.Configuration
import FormulaOcr.Exchange
import FormulaOcr.Localization.Translator

/-! The world in which commands run, and actions on it. An action that ends early keeps what it did
to the world until then. -/

namespace FormulaOcr

/-- The settings store: where it is kept, and its values. -/
structure Store where
  path : Path
  values : Dictionary Json

/-- Everything that commands see and change: the configuration, the files, the local date, the
outcomes that the network holds ready, whether the browser opens links, the calls made and the links
opened so far, and what the process keeps in memory. -/
structure World where
  configuration : Configuration
  disk : Disk
  today : String
  network : List Outcome
  browser : Bool
  calls : List Call
  opened : List String
  store : Option Store
  counterPath : Option Path
  translators : List (String × Localization.Translator)

abbrev Action := ExceptT Fault (StateM World)

namespace Action

def crash {α : Type} (c : Crash) : Action α :=
  throw (.crash c)

def ofCrash {α : Type} : Except Crash α → Action α
  | .ok a => pure a
  | .error c => crash c

/-- The translator for the configured language, loaded when it is first needed. -/
def translator : Action Localization.Translator := do
  let w ← get
  let language := w.configuration.language
  match w.translators.lookup language with
  | some t => return t
  | none =>
    let t ← ofCrash (Localization.Translator.load w.disk Localization.directory language "en" .null)
    set { w with translators := w.translators ++ [(language, t)] }
    return t

def translate (key : String) (values : Dictionary Json := []) : Action Json := do
  ofCrash (checkNames "t" ["key"] values)
  ofCrash ((← translator).translate key values)

/-- The wording of a message in the configured language. -/
def wording (key : String) (values : Dictionary Json := []) : Action String := do
  return (← translate key values).display

/-- Ends with a failure, put into the user's language on the spot. -/
def complain {α : Type} (c : Complaint) : Action α := do
  ofCrash (checkNames "RecognitionError.__init__" ["self", "key"] c.values)
  let message ← wording c.key c.values
  throw (.failure ⟨c, message⟩)

def raise {α : Type} : Problem → Action α
  | .complaint c => complain c
  | .crash c => crash c

def ofProblem {α : Type} : Except Problem α → Action α
  | .ok a => pure a
  | .error p => raise p

def ofComplaint {α : Type} : Except Complaint α → Action α
  | .ok a => pure a
  | .error c => complain c

/-- Runs an action and takes a failure as a result; a crash still ends it. -/
def attempt {α : Type} (a : Action α) : Action (Except Failure α) :=
  tryCatch (do return .ok (← a)) fun
    | .failure f => return .error f
    | .crash c => crash c

/-- Sends a call and takes the next outcome that the network holds ready. Only a cause that lies in
the network is a result; another one is a crash. -/
def exchange (call : Call) : Action (Except Interruption Response) := do
  let w ← get
  let (outcome, network) := match w.network with
    | outcome :: rest => (outcome, rest)
    | [] => (.interrupted ⟨"ConnectError", "no scripted response"⟩, [])
  set { w with network, calls := w.calls ++ [call] }
  match outcome with
  | .response r => return .ok r
  | .interrupted i => if i.isNetwork then return .error i else crash (.interruption i)

def timeout : Action Binary64 := do
  ofCrash (← get).configuration.timeout

/-- The directory of the state files, made if it is not there. -/
def dataDirectory : Action Path := do
  let path ← ofCrash (← get).configuration.dataPath
  let w ← get
  let (made, disk) := w.disk.makeDirectories path
  set { w with disk }
  ofCrash (made.mapError .disk)
  return path

/-- Writes a state file, making the directory that it is in if needed. -/
def writeFile (path : Path) (text : List Char) : Action Unit := do
  let w ← get
  let (made, disk) := w.disk.makeDirectories ⟨path.root, path.steps.dropLast⟩
  set { w with disk }
  ofCrash (made.mapError .disk)
  let written ← ofCrash ((disk.write path (Encoding.Utf8.encode text)).mapError .disk)
  set { w with disk := written }

/-- The JSON value of a state file; a file that cannot be read as one counts as none. -/
def readFile (path : Path) : Action (Option Json) := do
  match (← get).disk.readText path with
  | .ok text => return (Json.read text).toOption
  | .error _ => return none

end Action

end FormulaOcr
