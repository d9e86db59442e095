import ShopPayments.Proofs.Payload.Codec
import ShopPayments.Transaction.Codec

/-!
# Transactions and refunds arrive

Records keep all of their fields, requests leave out what they do not set.
-/

namespace ShopPayments

open Shape (Fills)

/-! ## Transactions -/

instance : Plain TransactionState where
  levels := 0
  plain s := by cases s <;> exact arrives_name rfl rfl

instance : Portable TransactionItem where
  Legible c i := Legible c i.unitPrice ∧ Legible c i.amount
  mapDecimals f i := { i with unitPrice := f i.unitPrice, amount := f i.amount }
  mapDecimals_id _ := rfl
  levels := _
  arrives {_ i} h := (Fills.required (plain i.uniqueId)).map TransactionItem.mk
    |>.seq (.required (plain i.name)) |>.seq (.defaulted (plain i.sku))
    |>.seq (.required (plain i.quantity)) |>.seq (.required (arrives h.1))
    |>.seq (.required (arrives h.2)) |>.seq (.required (plain i.type))
    |>.arrives rfl rfl (by decide)

instance : Portable Transaction where
  Legible c t := Legible c t.authorized ∧ Legible c t.captured ∧ Legible c t.refunded ∧
    Legible c t.items
  mapDecimals f t := { t with
    authorized := f t.authorized, captured := f t.captured, refunded := f t.refunded
    items := mapDecimals f t.items }
  mapDecimals_id t := by simp [mapDecimals_id]
  levels := _
  arrives {_ t} h := (Fills.required (plain t.id)).map Transaction.mk
    |>.seq (.required (plain t.space)) |>.seq (.required (plain t.state))
    |>.seq (.defaulted (plain t.merchantReference)) |>.seq (.required (plain t.currency))
    |>.seq (.defaulted (arrives h.1)) |>.seq (.defaulted (arrives h.2.1))
    |>.seq (.defaulted (arrives h.2.2.1)) |>.seq (.defaulted (arrives h.2.2.2))
    |>.seq (.defaulted (plain t.supportsRefunds)) |>.arrives rfl rfl (by decide)

/-! ## Refunds -/

instance : Plain RefundType where
  levels := 0
  plain t := by cases t <;> exact arrives_name rfl rfl

instance : Plain RefundState where
  levels := 0
  plain s := by cases s <;> exact arrives_name rfl rfl

instance : Portable Reduction where
  Legible c r := Legible c r.priceCut
  mapDecimals f r := { r with priceCut := f r.priceCut }
  mapDecimals_id _ := rfl
  levels := _
  arrives {_ r} h := (Fills.required (plain r.item)).map Reduction.mk
    |>.seq (.required (plain r.units)) |>.seq (.required (arrives h))
    |>.arrives rfl rfl (by decide)

instance : Portable RefundRequest where
  Legible c r := Legible c r.amount ∧ Legible c r.reductions
  mapDecimals f r := { r with
    amount := mapDecimals f r.amount, reductions := mapDecimals f r.reductions }
  mapDecimals_id r := by simp [mapDecimals_id]
  levels := _
  arrives {_ r} h := (Fills.defaultedUnless (arrives h.1) mapDecimals_of_isNone).map
      RefundRequest.mk
    |>.seq (.required (plain r.externalId)) |>.seq (.ifSome (plain r.merchantReference))
    |>.seq (.defaultedUnless (arrives h.2) mapDecimals_of_isEmpty)
    |>.seq (.required (plain r.transaction)) |>.seq (.required (plain r.type))
    |>.arrives rfl (congrArg Json.object (by simp [Json.member, Json.memberIfSome])) (by decide)

instance : Portable Refund where
  Legible c r := Legible c r.amount ∧ Legible c r.reductions
  mapDecimals f r := { r with amount := f r.amount, reductions := mapDecimals f r.reductions }
  mapDecimals_id r := by simp [mapDecimals_id]
  levels := _
  arrives {_ r} h := (Fills.required (plain r.id)).map Refund.mk
    |>.seq (.defaulted (plain r.space)) |>.seq (.required (plain r.transaction))
    |>.seq (.required (plain r.state)) |>.seq (.required (arrives h.1))
    |>.seq (.required (plain r.externalId)) |>.seq (.defaulted (arrives h.2))
    |>.arrives rfl rfl (by decide)

end ShopPayments
