import FormulaOcr.Command.Reply
import FormulaOcr.Link.Scheme
import FormulaOcr.Recognition.Pipeline
import FormulaOcr.Store

/-! The commands of the service. Their arguments are JSON values: the message channel hands them
over unchecked, null for one that is absent. -/

namespace FormulaOcr

inductive Command
  | getSettings
  | saveSettings (token key model voucherText : Json)
  | testSimpleTex (token : Json)
  | testSiliconFlow (key : Json)
  | availableModels
  | balance
  | recognize (image mode modelId : Json)
  | openLink (url : Json)

namespace Command

/-- The ids of models in a text, one to a line. A line without a slash holds none. -/
def voucherModels (text : String) : List String :=
  ((Text.lines text.toList).filter fun line => line.contains '/' && !(Text.trim line).isEmpty).map
    fun line => String.ofList (Text.trim line)

/-- An argument without the blanks at its ends; one that says nothing is empty. -/
def strip (argument : Json) : Except Crash String :=
  match argument.orElse (.str "") with
  | .str s => .ok (Text.trimmed s)
  | other => .error (.noSuchOperation other.kind "strip")

def parseVouchers : Json → Except Crash (List String)
  | .str text => .ok (voucherModels text)
  | other => .error (.noSuchOperation other.kind "splitlines")

def namedModels : Action (List NamedModel) :=
  SimpleTex.models.mapM fun model => return { model, name := ← model.name }

def runGetSettings : Action SettingsView := do
  let key ← Action.storedText Store.keyName
  let balance ← SiliconFlow.fetchBalance key
  let token ← Action.storedText Store.tokenName
  let model ← Action.storedText Store.modelName
  let models ← namedModels
  let usage ← Action.usageByModel (SimpleTex.models.map (·.id))
  let vouchers ← Action.storedTexts Store.vouchersName
  return {
    hasKey := key != "", hasToken := token != ""
    model := if model = "" then SimpleTex.standardModel.id else model
    models, usage, balance, vouchers }

/-- Saves a credential that is accepted, and clears one that is not; the answer is what there is to
tell the user. -/
def saveCredential (p : Provider) (name complaintKey : String) (credential : Json) :
    Action (List String) := do
  if !credential.isTruthy then return []
  else if ← p.validate credential then
    Action.setStored name credential
    return []
  else
    Action.setStored name (.str "")
    return [← Action.wording complaintKey]

def runSaveSettings (token key model voucherText : Json) : Action (List String) := do
  let tokenErrors ←
    saveCredential .simpletex Store.tokenName "settings.simpletex_token_invalid" token
  let keyErrors ←
    saveCredential .siliconflow Store.keyName "settings.siliconflow_key_invalid" key
  match model with
  | .null => pure ()
  | model => Action.setStored Store.modelName model
  match voucherText with
  | .null => pure ()
  | text =>
    let ids ← Action.ofCrash (parseVouchers text)
    Action.setStored Store.vouchersName (.texts ids)
  return tokenErrors ++ keyErrors

/-- Tests the given credential, or the stored one if none is given. -/
def runTest (p : Provider) (name : String) (credential : Json) : Action Probe := do
  let stored ← Action.storedText name
  p.probe (credential.orElse (.str stored))

def quotaOffer (available : Bool) (model : SimpleTex.Model) : Action QuotaOffer := do
  let name ← model.name
  let provider ← Provider.simpletex.label
  let usageToday ← Action.usageToday model.id
  let pricing ← Action.wording "pricing.free_per_day" [("count", .int model.freePerDay)]
  return { named := { model, name }, provider, available, usageToday, pricing }

def pricedOffer (vouchers : List String) (model : SiliconFlow.Model) : Action PricedOffer := do
  let provider ← Provider.siliconflow.label
  let pricing ← model.pricingLabel
  return { model, provider, pricing, voucher := vouchers.contains model.id }

def runAvailableModels : Action Offers := do
  let token ← Action.storedText Store.tokenName
  let key ← Action.storedText Store.keyName
  let vouchers ← Action.storedTexts Store.vouchersName
  let quota ← SimpleTex.models.mapM (quotaOffer (token != ""))
  let balance ← SiliconFlow.fetchBalance key
  let models ← SiliconFlow.listVisionModels key
  let priced ← models.mapM (pricedOffer vouchers)
  return { quota, priced, balance }

def runRecognize (image mode modelId : Json) : Action Recognition.Result := do
  let image ← Action.ofCrash (strip image)
  if image = "" then Action.complain .imageMissing
  let mode ← Action.ofComplaint (Mode.parse mode)
  let selector ← Action.ofCrash (strip modelId)
  let token ← Action.storedText Store.tokenName
  let key ← Action.storedText Store.keyName
  Recognition.recognize { image, mode, selector } { token, key }

/-- Opens a web link in the browser. -/
def runOpenLink (url : Json) : Action Bool := do
  let url ← Action.ofCrash (strip url)
  let scheme ← Action.ofCrash ((Link.scheme url).mapError .host)
  if Link.webSchemes.contains scheme then
    modify fun w => { w with opened := w.opened ++ [url] }
    return (← get).browser
  else Action.complain (.invalidUrl url)

def run : Command → Action Reply
  | .getSettings => do
    discard Action.counterPath
    return .settings (← runGetSettings)
  | .saveSettings token key model voucherText =>
    return .saved (← runSaveSettings token key model voucherText)
  | .testSimpleTex token => return .probed (← runTest .simpletex Store.tokenName token)
  | .testSiliconFlow key => return .probed (← runTest .siliconflow Store.keyName key)
  | .availableModels => do
    discard Action.counterPath
    return .offers (← runAvailableModels)
  | .balance => return .balance (← SiliconFlow.fetchBalance (← Action.storedText Store.keyName))
  | .recognize image mode modelId => do
    discard Action.counterPath
    return .recognized (← runRecognize image mode modelId)
  | .openLink url => return .opened (← runOpenLink url)

end Command

end FormulaOcr
