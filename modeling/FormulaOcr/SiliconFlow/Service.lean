import FormulaOcr.Provider
import FormulaOcr.SiliconFlow.Answer
import FormulaOcr.SiliconFlow.Balance
import FormulaOcr.SiliconFlow.Catalog

/-! Asking SiliconFlow about pictures, models, prices and the account. -/

namespace FormulaOcr.SiliconFlow

def dataUrl (data : String) : String :=
  "data:image/png;base64," ++ data

/-- A picture as a data address; one that is given as such stands for itself. -/
def imageUrl (image : String) : String :=
  if "data:".toList.isPrefixOf image.toList then image else dataUrl image

/-- Asks about a picture. -/
def ask (key : Json) (imageUrl modelId prompt : String) : Action String := do
  let response ← Provider.siliconflow.send .post "chat/completions" key
    [("Content-Type", .str "application/json")] (.json (chatBody modelId imageUrl prompt))
  Action.ofProblem (reading response)

def listModelIds (key : Json) : Action (List String) := do
  let response ← Provider.siliconflow.send .get "models" key [] (.query [("sub_type", "chat")])
  Action.ofProblem (listing response)

def fetchAccount (key : Json) : Action Response :=
  Provider.siliconflow.send .get "user/info" key [] .nothing

/-- The balance of an account; nothing without a key or without a good answer. -/
def fetchBalance (key : String) : Action (Option Balance) := do
  if key = "" then return none
  let report := do
    let response ← fetchAccount (.str key)
    if response.isSuccess then
      return some (Balance.ofReport (← Action.ofProblem response.json))
    else return none
  match ← Action.attempt report with
  | .ok balance => return balance
  | .error _ => return none

/-- The public prices; none when the page cannot be had. -/
def fetchPrices : Action (Dictionary Pricing) := do
  let url := (← get).configuration.endpoint "SILICONFLOW_PRICING_URL"
  let timeout ← Action.timeout
  match ← Action.exchange { verb := .get, url, timeout, headers := none, payload := .nothing } with
  | .ok response => return if response.isSuccess then pricesOn response.text else []
  | .error _ => return []

/-- The catalog of the models that a key gives access to; empty without a key or a list. Prices
that are not given are fetched. -/
def listVisionModels (key : String) (prices : Option (Dictionary Pricing) := none) :
    Action (List Model) := do
  if key = "" then return []
  match ← Action.attempt (listModelIds (.str key)) with
  | .ok ids =>
    match prices with
    | some prices => return catalog ids prices
    | none => return catalog ids (← fetchPrices)
  | .error _ => return []

end FormulaOcr.SiliconFlow
