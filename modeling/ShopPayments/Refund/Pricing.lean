import ShopPayments.Money
import ShopPayments.Transaction

/-!
# Pricing and booking refunds

What a refund request is worth against the line items of its transaction, and
what booking it does to the transaction. Booking never takes more than what was
captured and is not refunded yet.
-/

namespace ShopPayments

namespace RefundRequest

/-- Value of a reduction: the units given back at full price and the cut on all others. -/
def reductionValue (t : Transaction) (r : Reduction) : Except Failure Decimal := do
  let item ← t.item r.item
  let units := min r.units item.quantity
  let full ← (Decimal.ofUInt32 units).mul item.unitPrice
  let cut ← (Decimal.ofUInt32 (item.quantity - units)).mul r.priceCut
  let value ← full.add cut
  pure value

/-- Adds the value of a reduction to a total. -/
def addReduction (t : Transaction) (total : Decimal) (r : Reduction) :
    Except Failure Decimal := do
  let value ← reductionValue t r
  let sum ← total.add value
  pure sum

/-- The amount that a request moves, in cents. -/
def value (t : Transaction) (request : RefundRequest) : Except Failure Decimal :=
  match request.amount with
  | some amount => .ok (Money.round amount)
  | none => do
    let total ← request.reductions.foldlM (addReduction t) 0
    pure (Money.round total)

end RefundRequest

/-- The transaction after a refund, and the refund. -/
structure Booking where
  transaction : Transaction
  refund : Refund

/-- Books a request under an id. -/
def Transaction.book (t : Transaction) (request : RefundRequest) (id : UInt64) :
    Except Failure Booking := do
  if !t.supportsRefunds then throw (.refundsUnsupported t.id)
  let amount ← request.value t
  let available ← t.captured.sub t.refunded
  if available < amount then throw (.exceedsRefundable amount available t.id)
  let refunded ← t.refunded.add amount
  pure {
    transaction := { t with refunded }
    refund := {
      id
      space := t.space
      transaction := t.id
      state := .successful
      amount
      externalId := request.externalId
      reductions := request.reductions } }

end ShopPayments
