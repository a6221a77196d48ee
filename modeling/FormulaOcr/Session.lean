import FormulaOcr.Channel
import FormulaOcr.Rest.Route

/-! Sessions: what happens to a running service, from outside and inside, and what it answers. -/

namespace FormulaOcr.Session

inductive StoreQuery
  | set (name : String) (value : Json)
  | get (name : String)
  | text (name : String)
  | texts (name : String)
  | ensureDefaults

inductive UsageQuery
  | increment (id : String)
  | today (id : String)
  | byModel (ids : List String)
  | load

/-- Something that happens to a service. -/
inductive Event
  | connection (frames : List String)
  | request (r : Rest.Request)
  | startup
  | store (q : StoreQuery)
  | usage (q : UsageQuery)
  | paths
  | clock (today : String)
  | put (place : List String) (node : Node)
  | remove (place : List String)
  | configure (attributes : Dictionary Json) (environment : Dictionary String)
  | restart

/-- What an event is answered with. -/
inductive Answer
  | replies (list : List Json)
  | rest (a : Rest.Answer)
  | started
  | value (j : Json)
  | usage (u : Usage)
  | counts (c : Dictionary Nat)
  | silent

def runStore : StoreQuery → Action Answer
  | .set name value => do
    Action.openStore
    Action.setStored name value
    return .value .null
  | .get name => do
    Action.openStore
    return .value (((← Action.store).get? name).getD .null)
  | .text name => do
    Action.openStore
    return .value (.str (← Action.storedText name))
  | .texts name => do
    Action.openStore
    return .value (.texts (← Action.storedTexts name))
  | .ensureDefaults => do
    Action.openStore
    Action.ensureDefaults
    return .value .null

def runUsage : UsageQuery → Action Answer
  | .increment id => do
    Action.countRecognition id
    return .value .null
  | .today id => return .value (.int (← Action.usageToday id))
  | .byModel ids => do
    discard Action.counterPath
    return .counts (← Action.usageByModel ids)
  | .load => return .usage (← Action.loadUsage)

/-- What the process keeps in memory is gone; configuration and files stay. -/
def restarted (w : World) : World :=
  { w with store := none, counterPath := none, translators := [] }

/-- A node put at a place in place of what is there. -/
def putNode (place : List String) (node : Node) (w : World) : World :=
  let disk := (w.disk.makeDirectories ⟨"/", place.dropLast⟩).2
  { w with disk := (disk.remove place).put place node }

def run : Event → Action Answer
  | .connection frames => return .replies (← (Channel.connection frames : StateM World _))
  | .request r => return .rest (← (Rest.answer r : StateM World _))
  | .startup => do
    Action.openStore
    return .started
  | .store q => runStore q
  | .usage q => runUsage q
  | .paths => do
    Action.openStore
    let store := (← Action.store).path
    let counters ← Action.counterPath
    return .value (.texts [store.toString, counters.toString])
  | .clock today => do
    modify fun w => { w with today }
    return .silent
  | .put place node => do
    modify (putNode place node)
    return .silent
  | .remove place => do
    modify fun w => { w with disk := w.disk.remove place }
    return .silent
  | .configure attributes environment => do
    modify fun w => { w with configuration :=
      { attributes := w.configuration.attributes.merge attributes
        environment := w.configuration.environment.merge environment } }
    return .silent
  | .restart => do
    modify restarted
    return .silent

/-- A service that has just been installed, on a disk that holds the given nodes. -/
def fresh (configuration : Configuration) (nodes : List (List String × Node)) (today : String)
    (network : List Outcome) (browser : Bool) : World :=
  let bare : World :=
    { configuration, disk := Localization.install ⟨[]⟩, today, network, browser, calls := [],
      opened := [], store := none, counterPath := none, translators := [] }
  nodes.foldl (fun w (place, node) => putNode place node w) bare

end FormulaOcr.Session
