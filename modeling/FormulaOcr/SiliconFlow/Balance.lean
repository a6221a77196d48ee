import FormulaOcr.Json.Display
import FormulaOcr.Number.Reading

/-! Account balances: amounts as the provider spells them. -/

namespace FormulaOcr.SiliconFlow

/-- The amount that was paid in, and the amount that is left in all. -/
structure Balance where
  charge : String
  total : String
deriving DecidableEq, Repr

/-- The number that an amount spells; zero if it spells none. -/
def amount (text : String) : Binary64 :=
  (Number.binary64? text.toList).getD .zero

/-- The promotional part of a balance: whatever of the total was not paid in. -/
def Balance.voucher (b : Balance) : String :=
  String.ofList (((amount b.total).sub (amount b.charge)).fixed 4)

/-- A text or a number as an amount. -/
def amountText? : Json → Option String
  | .str s => some s
  | j@(.int _) | j@(.float _) => some j.display
  | _ => none

def field? (payload : Json) (paths : List (List String)) : Option String :=
  paths.findSome? fun path => amountText? (payload.follow path)

def total? (payload : Json) : Option String :=
  field? payload [["data", "totalBalance"], ["data", "balance"]]

def orZero (amount : Option String) : String :=
  match amount with
  | some text => if text = "" then "0" else text
  | none => "0"

/-- The balance in an account report; an amount that is missing or empty is zero. -/
def Balance.ofReport (payload : Json) : Balance where
  charge := orZero (field? payload [["data", "chargeBalance"]])
  total := orZero (total? payload)

end FormulaOcr.SiliconFlow
