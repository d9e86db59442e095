import ShopPayments.Gateway

/-!
# Refundable units and amounts

How much of a transaction is left to refund, seen from its recorded refunds.
Failed refunds do not count.
-/

namespace ShopPayments

/-- The reductions of a line item by refunds that did not fail. -/
def reductionsOf (refunds : List Refund) (itemId : String) : List Reduction :=
  ((refunds.filter (·.state != .failed)).flatMap (·.reductions)).filter (·.item = itemId)

/-- Adds units to a count of 32 bits. -/
def addUnits (count units : UInt32) : Except Overflow UInt32 :=
  if count.toNat + units.toNat < UInt32.size then .ok (count + units) else .error .count

/-- The units of a line item that were given back. -/
def refundedUnits (refunds : List Refund) (itemId : String) : Except Overflow UInt32 :=
  ((reductionsOf refunds itemId).map (·.units)).foldlM addUnits 0

/-- The units left of a quantity. -/
def unitsLeft (quantity taken : UInt32) : UInt32 := if taken < quantity then quantity - taken else 0

/-- The value of a price cut on the units of a quantity that were not given back with it. -/
def cutValue (quantity : UInt32) (r : Reduction) : Except Overflow Decimal :=
  (Decimal.ofUInt32 (unitsLeft quantity r.units)).mul r.priceCut

/-- Adds the value of a price cut to a total. -/
def addCut (quantity : UInt32) (total : Decimal) (r : Reduction) : Except Overflow Decimal := do
  let value ← cutValue quantity r
  total.add value

/-- The value that price cuts took off a line item. -/
def refundedCuts (refunds : List Refund) (quantity : UInt32) (itemId : String) :
    Except Overflow Decimal :=
  (reductionsOf refunds itemId).foldlM (addCut quantity) 0

/-- The amount captured and not refunded yet, in cents. -/
def Transaction.refundableAmount (t : Transaction) : Except Overflow Decimal := do
  let left ← t.captured.sub t.refunded
  pure (Money.round left)

/-- The units of a line item that are left to refund; none of an unknown item. -/
def Transaction.refundableUnits (t : Transaction) (refunds : List Refund) (itemId : String) :
    Except Overflow UInt32 :=
  match t.item? itemId with
  | none => .ok 0
  | some item => do
    let taken ← refundedUnits refunds itemId
    pure (unitsLeft item.quantity taken)

end ShopPayments
