import FormulaOcr.Json.Value

/-! The forms that the bodies of answers have. -/

namespace FormulaOcr.Rest

/-- The form of a value: any value, a list of values of one form, or an object with known
members. -/
inductive Shape
  | any
  | list (item : Shape)
  | record (members : List (String × Shape))

namespace Shape

mutual

/-- The part of a value that its form speaks of. Members that the form does not know are left out,
and so are those without a value. -/
def restrict : Shape → Json → Json
  | .list item, .arr items => .arr (items.map fun j => restrict item j)
  | .record members, j@(.obj _) => .obj (restrictMembers members j)
  | _, j => j

def restrictMembers : List (String × Shape) → Json → Dictionary Json
  | [], _ => []
  | member :: members, j => restrictMember member j ++ restrictMembers members j

def restrictMember : String × Shape → Json → Dictionary Json
  | (name, shape), j =>
    match j.member name with
    | .null => []
    | value => [(name, restrict shape value)]

end

/-- An object whose members may have any value. -/
def plain (names : List String) : Shape :=
  .record (names.map fun name => (name, .any))

def settings : Shape :=
  .record
    [("has_key", .any), ("has_simpletex", .any), ("simpletex_model", .any),
     ("simpletex_models", .list (plain ["id", "name", "free_per_day"])),
     ("simpletex_usage_by_model", .any), ("sf_balance", .any), ("sf_charge_balance", .any),
     ("voucher_models", .any)]

def saved : Shape :=
  plain ["ok", "errors"]

def probe : Shape :=
  plain ["ok", "error", "balance"]

def offers : Shape :=
  .record
    [("models", .list <| plain
      ["id", "name", "provider", "modes", "available", "free_per_day", "usage_today", "pricing",
       "free", "voucher", "charge_balance", "total_balance"]),
     ("sf_balance", .any), ("sf_charge_balance", .any), ("voucher_balance", .any)]

def balance : Shape :=
  plain ["charge_balance", "total_balance", "voucher_balance"]

def recognition : Shape :=
  plain ["text", "model", "verified", "corrected", "original_text"]

end Shape

end FormulaOcr.Rest
