import FormulaOcr.Number.Decimal
import FormulaOcr.SiliconFlow.Classification
import FormulaOcr.SiliconFlow.Pricing
import FormulaOcr.World

/-! The catalog of the models that see pictures: free ones first, then by the price of input. -/

namespace FormulaOcr.SiliconFlow

structure Model where
  id : String
  name : String
  pricing : Option Pricing
  modes : List Mode
deriving DecidableEq, Repr

namespace Model

/-- A model whose prices are not known is not free. -/
def isFree (m : Model) : Bool :=
  m.pricing.any Pricing.isFree

/-- The price that a model is ranked by; one that is not known counts as zero. -/
def sortPrice (m : Model) : Binary64 :=
  m.pricing.elim .zero Pricing.input

/-- The price of a model in the user's language. -/
def pricingLabel (m : Model) : Action String :=
  match m.pricing with
  | none => Action.wording "pricing.unknown"
  | some p =>
    if p.isFree then Action.wording "pricing.free"
    else Action.wording "pricing.priced"
      [("input", .str (.ofList p.input.general)), ("output", .str (.ofList p.output.general))]

/-- The ranking: free before paid, then the lower price. -/
def rankedBefore (a b : Model) : Bool :=
  if a.isFree = b.isFree then !b.sortPrice.lt a.sortPrice else a.isFree

end Model

/-- Prices below zero stand for prices that are not known. -/
def known? (p : Pricing) : Option Pricing :=
  if Binary64.zero.le (p.input.least p.output) then some p else none

def listed? (prices : Dictionary Pricing) (id : String) : Option Model :=
  let c := classify id
  if c.isVision then
    some { id, name := displayName id, pricing := (prices.find? id).bind known?, modes := c.modes }
  else none

/-- The ranked models that see pictures. Models of one rank keep the order of the list. -/
def catalog (ids : List String) (prices : Dictionary Pricing) : List Model :=
  (ids.filterMap (listed? prices)).mergeSort Model.rankedBefore

end FormulaOcr.SiliconFlow
