import ShopPayments.Proofs.Transaction.Codec
import ShopPayments.Snapshot.Codec

/-!
# Snapshots arrive
-/

namespace ShopPayments

open Shape (Fills)

instance : Plain LifeState where
  levels := 0
  plain s := by cases s <;> exact arrives_name rfl rfl

instance : Plain PaymentMethod where
  levels := _
  plain m := (Fills.required (plain m.id)).map PaymentMethod.mk
    |>.seq (.required (plain m.space)) |>.seq (.required (plain m.name))
    |>.seq (.required (plain m.state)) |>.seq (.defaulted (plain m.sortOrder))
    |>.arrives rfl rfl (by decide)

instance : Plain StoredMethod where
  levels := _
  plain m := (Fills.required (plain m.id)).map StoredMethod.mk
    |>.seq (.required (plain m.method)) |>.seq (.required (plain m.space))
    |>.seq (.required (plain m.name)) |>.seq (.required (plain m.sortOrder))
    |>.seq (.required (plain m.active)) |>.arrives rfl rfl (by decide)

instance : Portable Snapshot where
  Legible c s := Legible c s.transactions ∧ Legible c s.refunds
  mapDecimals f s := { s with
    transactions := mapDecimals f s.transactions, refunds := mapDecimals f s.refunds }
  mapDecimals_id s := by simp [mapDecimals_id]
  levels := _
  arrives {_ s} h := (Fills.defaulted (arrives h.1)).map Snapshot.mk
    |>.seq (.defaulted (arrives h.2)) |>.seq (.defaulted (plain s.methods))
    |>.seq (.defaulted (plain s.stored)) |>.seq (.defaulted (plain s.sequence))
    |>.arrives rfl rfl (by decide)

end ShopPayments
