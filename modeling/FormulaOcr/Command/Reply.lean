import FormulaOcr.Probe
import FormulaOcr.Recognition.Result

/-! What commands answer, and its form as JSON. Members without a value are left out. -/

namespace FormulaOcr

/-- A member that is there only if it has a value. -/
def Json.optional (name : String) (value : Option String) : List (String × Json) :=
  (value.map fun text => (name, Json.str text)).toList

namespace SiliconFlow

def Balance.summary (b : Option Balance) : List (String × Json) :=
  Json.optional "sf_balance" (b.map Balance.total) ++
    Json.optional "sf_charge_balance" (b.map Balance.charge)

end SiliconFlow

def Probe.toJson (p : Probe) : Json :=
  .obj <| [("ok", .bool p.ok)] ++ Json.optional "error" p.error ++ Json.optional "balance" p.balance

/-- A model of SimpleTex with its name in the user's language. -/
structure NamedModel where
  model : SimpleTex.Model
  name : String

def NamedModel.toJson (m : NamedModel) : Json :=
  .obj
    [("id", .str m.model.id), ("name", .str m.name), ("free_per_day", .int m.model.freePerDay)]

structure SettingsView where
  hasKey : Bool
  hasToken : Bool
  model : String
  models : List NamedModel
  usage : Dictionary Nat
  balance : Option SiliconFlow.Balance
  vouchers : List String

def SettingsView.toJson (v : SettingsView) : Json :=
  .obj <|
    [("has_key", .bool v.hasKey),
     ("has_simpletex", .bool v.hasToken),
     ("simpletex_model", .str v.model),
     ("simpletex_models", .arr (v.models.map NamedModel.toJson)),
     ("simpletex_usage_by_model", .obj (v.usage.map fun (id, count) => (id, .int count)))] ++
    SiliconFlow.Balance.summary v.balance ++
    [("voucher_models", .texts v.vouchers)]

/-- An offer of a model of SimpleTex. -/
structure QuotaOffer where
  named : NamedModel
  provider : String
  available : Bool
  usageToday : Nat
  pricing : String

def QuotaOffer.toJson (o : QuotaOffer) : Json :=
  .obj
    [("id", .str (Provider.simpletex.name ++ ":" ++ o.named.model.id)),
     ("name", .str o.named.name),
     ("provider", .str o.provider),
     ("modes", Mode.names o.named.model.modes),
     ("available", .bool o.available),
     ("free_per_day", .int o.named.model.freePerDay),
     ("usage_today", .int o.usageToday),
     ("pricing", .str o.pricing)]

/-- An offer of a model of SiliconFlow. -/
structure PricedOffer where
  model : SiliconFlow.Model
  provider : String
  pricing : String
  voucher : Bool

def PricedOffer.toJson (balance : Option SiliconFlow.Balance) (o : PricedOffer) : Json :=
  .obj <|
    [("id", .str (Provider.siliconflow.name ++ ":" ++ o.model.id)),
     ("name", .str o.model.name),
     ("provider", .str o.provider),
     ("modes", Mode.names o.model.modes),
     ("available", .bool true),
     ("pricing", .str o.pricing),
     ("free", .bool o.model.isFree),
     ("voucher", .bool o.voucher)] ++
    Json.optional "charge_balance" (balance.map SiliconFlow.Balance.charge) ++
    Json.optional "total_balance" (balance.map SiliconFlow.Balance.total)

structure Offers where
  quota : List QuotaOffer
  priced : List PricedOffer
  balance : Option SiliconFlow.Balance

def Offers.toJson (o : Offers) : Json :=
  let models := o.quota.map QuotaOffer.toJson ++ o.priced.map (PricedOffer.toJson o.balance)
  .obj <|
    [("models", .arr models)] ++
    SiliconFlow.Balance.summary o.balance ++
    Json.optional "voucher_balance" (o.balance.map SiliconFlow.Balance.voucher)

/-- What a command answers. -/
inductive Reply
  | settings (view : SettingsView)
  | saved (errors : List String)
  | probed (p : Probe)
  | offers (o : Offers)
  | balance (b : Option SiliconFlow.Balance)
  | recognized (r : Recognition.Result)
  | opened (ok : Bool)

def Reply.toJson : Reply → Json
  | .settings view => view.toJson
  | .saved [] => .obj [("ok", .bool true)]
  | .saved errors => .obj [("ok", .bool false), ("errors", .texts errors)]
  | .probed p => p.toJson
  | .offers o => o.toJson
  | .balance none => .obj []
  | .balance (some b) => .obj
    [("charge_balance", .str b.charge), ("total_balance", .str b.total),
     ("voucher_balance", .str b.voucher)]
  | .recognized r => r.toJson
  | .opened ok => .obj [("ok", .bool ok)]

end FormulaOcr
