import ShopPayments.Payload.Discounts
import ShopPayments.Payload.Shipping

/-!
# All line items of a sale

Products and discounts come first, sorted by name, then shipping. If the amounts
do not add up to the total of the order, an adjustment makes up the difference,
or, in strict mode, the sale is turned down.
-/

namespace ShopPayments
namespace Sale

/-- Sorts line items by name; equal names keep their order. -/
def sortByName (items : List LineItem) : List LineItem :=
  items.mergeSort fun a b => decide (a.name ≤ b.name)

/-- Sum of the amounts of line items. -/
def itemTotal (items : List LineItem) : Except Overflow Decimal :=
  Decimal.sum (items.map (·.amount))

/-- Id of the adjustment. -/
def adjustmentId : String := "Adjustment-Line-Item"

/-- The item that makes up a difference. -/
def adjustmentItem (s : Sale) (difference : Decimal) : LineItem where
  amount := difference
  attributes := .empty
  name := s.labels.adjustmentItem
  quantity := 1
  shippingRequired := none
  sku := some adjustmentId
  taxes := []
  type := if 0 < difference then .fee else .discount
  uniqueId := adjustmentId

/-- The adjustment, if the amounts of the items do not add up in cents. -/
def adjustment (s : Sale) (items : List LineItem) : Except Failure (List LineItem) := do
  let total ← itemTotal items
  let difference ← s.order.total.sub total
  let difference := Money.round difference
  if difference.isZero then pure []
  else if s.settings.strictTotals then throw (.totalMismatch total s.order.total)
  else
    let item ← ensureValid (s.adjustmentItem difference)
    pure [item]

/-- The line items before the adjustment. -/
def builtItems (s : Sale) : Except Failure (List LineItem) := do
  let products ← s.productItems
  let discounts ← s.discountItems
  let shipping ← s.shippingItems
  pure (sortByName (products ++ discounts) ++ shipping)

/-- All line items of the payload. -/
def items (s : Sale) : Except Failure (List LineItem) := do
  let built ← s.builtItems
  let adjustment ← s.adjustment built
  pure (built ++ adjustment)

end Sale
end ShopPayments
