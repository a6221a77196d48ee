import FormulaOcr.Mode
import FormulaOcr.World

/-! The two recognition services, and how they are addressed. -/

namespace FormulaOcr

inductive Provider
  | simpletex
  | siliconflow
deriving DecidableEq, Repr

namespace Provider

def name : Provider → String
  | .simpletex => "simpletex"
  | .siliconflow => "siliconflow"

def all : List Provider := [.simpletex, .siliconflow]

def ofName? (name : String) : Option Provider :=
  all.find? (·.name = name)

/-- The setting that holds the base of a provider's addresses. -/
def baseSetting : Provider → String
  | .simpletex => "SIMPLETEX_API_BASE"
  | .siliconflow => "SILICONFLOW_API_BASE"

/-- The name of a provider in the user's language. -/
def label (p : Provider) : Action String :=
  Action.wording s!"models.{p.name}_provider"

/-- The address of a provider's service. -/
def url (c : Configuration) (p : Provider) (path : String) : String :=
  c.endpoint p.baseSetting ++ "/" ++ String.ofList (path.toList.dropWhile (· == '/'))

/-- The header that a credential is sent in. Credentials that come over the message channel are
not checked to be texts. -/
def authHeaders (p : Provider) (credential : Json) : List (String × Json) :=
  match p with
  | .simpletex => [("token", credential)]
  | .siliconflow => [("Authorization", .str ("Bearer " ++ credential.display))]

/-- How long a call may take: as long as asked for, or as configured. -/
def timeoutOr (requested : Json) : Action Json := do
  if requested.isTruthy then return requested else return .float (← Action.timeout)

/-- Sends a call to a provider; a cause that lies in the network is a failure. -/
def send (p : Provider) (verb : Verb) (path : String) (credential : Json)
    (headers : List (String × Json)) (payload : Payload) : Action Response := do
  let url := p.url (← get).configuration path
  let timeout ← Action.timeout
  let headers := Dictionary.merge (p.authHeaders credential) headers
  match ← Action.exchange { verb, url, timeout, headers := some headers, payload } with
  | .ok response => return response
  | .error i => Action.complain (.requestFailed i.detail)

end Provider

end FormulaOcr
