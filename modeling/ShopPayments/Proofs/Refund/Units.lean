import Mathlib.Algebra.BigOperators.Group.List.Basic
import Mathlib.Algebra.Order.Ring.Nat
import Mathlib.Order.MinMax
import ShopPayments.Proofs.Gateway.Booking
import ShopPayments.Proofs.Outcome
import ShopPayments.Refund.Limits

/-!
# Counting units

The units of a line item that refunds gave back, counted without a bound.  A count of 32 bits that
succeeds is this number, and what is left of a line item is its quantity without it, or nothing.
-/

namespace ShopPayments

/-- The units of a line item that refunds which did not fail gave back. -/
def takenUnits (refunds : List Refund) (itemId : String) : ℕ :=
  ((reductionsOf refunds itemId).map (·.units.toNat)).sum

theorem reductionsOf_append (refunds more : List Refund) (itemId : String) :
    reductionsOf (refunds ++ more) itemId =
      reductionsOf refunds itemId ++ reductionsOf more itemId := by
  simp [reductionsOf]

theorem takenUnits_append (refunds more : List Refund) (itemId : String) :
    takenUnits (refunds ++ more) itemId = takenUnits refunds itemId + takenUnits more itemId := by
  simp [takenUnits, reductionsOf_append]

@[simp]
theorem takenUnits_nil (itemId : String) : takenUnits [] itemId = 0 := rfl

theorem reductionsOf_singleton {refund : Refund} (h : refund.state ≠ .failed) (itemId : String) :
    reductionsOf [refund] itemId = refund.reductions.filter (·.item = itemId) := by
  simp [reductionsOf, h]

theorem takenUnits_singleton {refund : Refund} {reduction : Reduction}
    (hstate : refund.state ≠ .failed) (h : refund.reductions = [reduction]) (itemId : String) :
    takenUnits [refund] itemId = if reduction.item = itemId then reduction.units.toNat else 0 := by
  rw [takenUnits, reductionsOf_singleton hstate, h]
  by_cases hitem : reduction.item = itemId <;> simp [hitem]

/-- The order of the refunds does not matter. -/
theorem takenUnits_perm {refunds more : List Refund} (h : refunds.Perm more) (itemId : String) :
    takenUnits refunds itemId = takenUnits more itemId := by
  have hreductions : (reductionsOf refunds itemId).Perm (reductionsOf more itemId) :=
    ((h.filter _).flatMap_right _).filter _
  exact (hreductions.map _).sum_eq

/-! ## Counts of 32 bits -/

theorem toNat_of_addUnits {count units sum : UInt32} (h : addUnits count units = .ok sum) :
    sum.toNat = count.toNat + units.toNat := by
  unfold addUnits at h
  split at h
  next hroom =>
    rw [← Except.ok.inj h, UInt32.toNat_add]
    exact Nat.mod_eq_of_lt hroom
  next => cases h

theorem toNat_of_foldlM_addUnits {units : List UInt32} {start total : UInt32}
    (h : units.foldlM addUnits start = .ok total) :
    total.toNat = start.toNat + (units.map (·.toNat)).sum := by
  induction units generalizing start with
  | nil =>
    rw [List.foldlM_nil, pure_eq_ok] at h
    simp [h]
  | cons first rest ih =>
    rw [List.foldlM_cons, bind_eq_ok] at h
    obtain ⟨count, hcount, hrest⟩ := h
    rw [ih hrest, toNat_of_addUnits hcount, List.map_cons, List.sum_cons, Nat.add_assoc]

/-- Where the whole has room, every count on the way has. -/
theorem exists_foldlM_addUnits {units : List UInt32} {start : UInt32}
    (h : start.toNat + (units.map (·.toNat)).sum < UInt32.size) :
    ∃ total, units.foldlM addUnits start = .ok total := by
  induction units generalizing start with
  | nil => exact ⟨start, rfl⟩
  | cons first rest ih =>
    rw [List.map_cons, List.sum_cons] at h
    have hfirst : addUnits start first = .ok (start + first) := if_pos (by omega)
    obtain ⟨total, htotal⟩ := @ih (start + first) (by rw [toNat_of_addUnits hfirst]; omega)
    refine ⟨total, ?_⟩
    rw [List.foldlM_cons, hfirst]
    exact htotal

theorem toNat_of_refundedUnits {refunds : List Refund} {itemId : String} {taken : UInt32}
    (h : refundedUnits refunds itemId = .ok taken) :
    taken.toNat = takenUnits refunds itemId := by
  have hsum := toNat_of_foldlM_addUnits h
  simpa [takenUnits, List.map_map, Function.comp_def] using hsum

/-- A count on the way has no room as soon as the whole has none. -/
theorem foldlM_addUnits_eq_error {units : List UInt32} {start : UInt32}
    (h : UInt32.size ≤ start.toNat + (units.map (·.toNat)).sum) :
    units.foldlM addUnits start = .error .count := by
  induction units generalizing start with
  | nil =>
    have hstart := start.toNat_lt_size
    rw [List.map_nil, List.sum_nil] at h
    omega
  | cons first rest ih =>
    rw [List.map_cons, List.sum_cons] at h
    rw [List.foldlM_cons]
    rcases Nat.lt_or_ge (start.toNat + first.toNat) UInt32.size with hroom | hfull
    · have hfirst : addUnits start first = .ok (start + first) := if_pos hroom
      rw [hfirst, ok_bind]
      apply ih
      rw [toNat_of_addUnits hfirst]
      omega
    · rw [addUnits, if_neg (Nat.not_lt.mpr hfull), error_bind]

/-- Where the units given back take 32 bits, the count has room. -/
theorem exists_refundedUnits_of_lt {refunds : List Refund} {itemId : String}
    (h : takenUnits refunds itemId < UInt32.size) :
    ∃ taken, refundedUnits refunds itemId = .ok taken := by
  apply exists_foldlM_addUnits
  rw [List.map_map, Function.comp_def, UInt32.toNat_zero, zero_add]
  exact h

theorem refundedUnits_eq_error {refunds : List Refund} {itemId : String}
    (h : UInt32.size ≤ takenUnits refunds itemId) :
    refundedUnits refunds itemId = .error .count := by
  apply foldlM_addUnits_eq_error
  rw [List.map_map, Function.comp_def, UInt32.toNat_zero, zero_add]
  exact h

theorem takenUnits_lt_of_refundedUnits {refunds : List Refund} {itemId : String} {taken : UInt32}
    (h : refundedUnits refunds itemId = .ok taken) : takenUnits refunds itemId < UInt32.size := by
  rw [← toNat_of_refundedUnits h]
  exact taken.toNat_lt_size

/-- Where no more units were given back than there are, the count has room. -/
theorem exists_refundedUnits {refunds : List Refund} {itemId : String} {quantity : UInt32}
    (h : takenUnits refunds itemId ≤ quantity.toNat) :
    ∃ taken, refundedUnits refunds itemId = .ok taken :=
  exists_refundedUnits_of_lt (h.trans_lt quantity.toNat_lt_size)

theorem toNat_unitsLeft (quantity taken : UInt32) :
    (unitsLeft quantity taken).toNat = quantity.toNat - taken.toNat := by
  unfold unitsLeft
  split
  next hlt => exact UInt32.toNat_sub_of_le _ _ (UInt32.le_of_lt hlt)
  next hle =>
    rw [UInt32.lt_iff_toNat_lt] at hle
    simp
    omega

theorem unitsLeft_le (quantity taken : UInt32) : unitsLeft quantity taken ≤ quantity := by
  rw [UInt32.le_iff_toNat_le, toNat_unitsLeft]
  exact Nat.sub_le _ _

namespace Transaction

variable {t : Transaction} {refunds : List Refund} {itemId : String} {item : TransactionItem}
  {left : UInt32}

theorem toNat_of_refundableUnits (hitem : t.item? itemId = some item)
    (h : t.refundableUnits refunds itemId = .ok left) :
    left.toNat = item.quantity.toNat - takenUnits refunds itemId := by
  unfold refundableUnits at h
  rw [hitem] at h
  simp only [bind_eq_ok, pure_eq_ok] at h
  obtain ⟨taken, htaken, rfl⟩ := h
  rw [toNat_unitsLeft, toNat_of_refundedUnits htaken]

theorem refundableUnits_le (hitem : t.item? itemId = some item)
    (h : t.refundableUnits refunds itemId = .ok left) : left ≤ item.quantity := by
  rw [UInt32.le_iff_toNat_le, toNat_of_refundableUnits hitem h]
  exact Nat.sub_le _ _

theorem exists_refundableUnits
    (h : ∀ item, t.item? itemId = some item → takenUnits refunds itemId ≤ item.quantity.toNat) :
    ∃ left, t.refundableUnits refunds itemId = .ok left := by
  unfold refundableUnits
  cases hitem : t.item? itemId with
  | none => exact ⟨0, rfl⟩
  | some item =>
    obtain ⟨taken, htaken⟩ := exists_refundedUnits (h item hitem)
    exact ⟨unitsLeft item.quantity taken, by rw [htaken]; rfl⟩

/-- Units that are left keep the count within the quantity. -/
theorem takenUnits_add_le (hitem : t.item? itemId = some item)
    (h : t.refundableUnits refunds itemId = .ok left) {units : UInt32} (hunits : units ≤ left)
    (hpositive : 0 < units.toNat) :
    takenUnits refunds itemId + units.toNat ≤ item.quantity.toNat := by
  have hleft := toNat_of_refundableUnits hitem h
  rw [UInt32.le_iff_toNat_le] at hunits
  omega

end Transaction

/-! ## Booking -/

namespace Gateway.Booked

variable {g after : Gateway} {space : UInt64} {request : RefundRequest} {t : Transaction}
  {total : Decimal} {refund : Refund}

/-- A booking gives back the units that its request names, on its transaction only. -/
theorem takenUnits_after (h : g.Booked space request t total refund after) (s id : UInt64)
    (itemId : String) :
    takenUnits (after.refundsOf s id) itemId =
      takenUnits (g.refundsOf s id) itemId +
        if (space, request.transaction) = (s, id) then
          ((request.reductions.filter (·.item = itemId)).map (·.units.toNat)).sum
        else 0 := by
  rw [h.refundsOf_after]
  split
  · have hstate : refund.state ≠ .failed := by
      rw [h.state_eq]
      decide
    rw [takenUnits_append, ← h.reductions_eq, ← reductionsOf_singleton hstate]
    rfl
  · rfl

end Gateway.Booked

end ShopPayments
