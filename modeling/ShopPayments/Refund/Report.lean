import ShopPayments.Refund.Limits

/-!
# The report of refundable line items

A row for every line item of a transaction: the units left, and the amount left,
which is never more than what is left of the whole transaction.
-/

namespace ShopPayments

/-- What is left to refund of a line item. -/
structure RefundableItem where
  uniqueId : String
  name : String
  quantity : UInt32
  refundableUnits : UInt32
  unitPrice : Decimal
  refundableAmount : Decimal
  deriving DecidableEq

namespace RefundableItem

/-- The row of a line item, given the recorded refunds and what is left in total. -/
def ofItem (refunds : List Refund) (left : Decimal) (item : TransactionItem) :
    Except Overflow RefundableItem := do
  let taken ← refundedUnits refunds item.uniqueId
  let units := unitsLeft item.quantity taken
  let full ← (Decimal.ofUInt32 units).mul item.unitPrice
  let cuts ← refundedCuts refunds item.quantity item.uniqueId
  let remaining ← full.sub cuts
  pure {
    uniqueId := item.uniqueId
    name := item.name
    quantity := item.quantity
    refundableUnits := units
    unitPrice := item.unitPrice
    refundableAmount := (Money.round (remaining.max 0)).min left }

end RefundableItem

/-- The rows of all line items of a transaction. -/
def Transaction.refundableItems (t : Transaction) (refunds : List Refund) :
    Except Overflow (List RefundableItem) := do
  let left ← t.refundableAmount
  t.items.mapM (RefundableItem.ofItem refunds left)

/-- The report of a transaction of a space. -/
def Gateway.report (g : Gateway) (space : UInt64) (t : Transaction) :
    Except Failure (List RefundableItem) :=
  Failure.ofOverflow (t.refundableItems (g.refundsOf space t.id))

end ShopPayments
