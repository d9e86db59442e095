import ShopPayments.Proofs.Gateway.Batch
import ShopPayments.Proofs.Refund.Anonymous
import ShopPayments.Proofs.Refund.UnitPrices
import ShopPayments.Proofs.Refund.Units

/-!
# Units on offer

Units of a line item are on offer if everything but the money that is left lets a request for them
pass: the transaction and its state, the count of units and the price.  A request for some of them
reaches the gateway then, which books it exactly if its price in cents is left, and all other units
stay on offer.
-/

namespace ShopPayments

theorem RefundRequest.unitsReduction_of_pos {units : UInt32} (h : 0 < units.toNat)
    (item : TransactionItem) : unitsReduction item units = ⟨item.uniqueId, units, 0⟩ := by
  apply if_neg
  rintro rfl
  exact h.ne rfl

namespace Gateway

/-- Up to a number of units of a line item can be given back: every check but the last one, against
the money that is left, lets them pass. -/
structure Offers (g : Gateway) (space : UInt64) (t : Transaction) (item : TransactionItem)
    (count : ℕ) : Prop where
  found : g.transaction? space t.id = some t
  item_eq : t.item? item.uniqueId = some item
  id_pos : 0 < t.id
  named : 0 < Text.size item.uniqueId
  fulfilled : t.state = .fulfill
  supported : t.supportsRefunds = true
  counted : takenUnits (g.refundsOf space t.id) item.uniqueId + count ≤ item.quantity.toNat
  priced : ∀ units : UInt32, units.toNat ≤ count →
    ∃ full, (Decimal.ofUInt32 units).mul item.unitPrice = .ok full ∧ full ≤ t.authorized

/-- Units of a line item of a transaction were given back. -/
structure Returns (g : Gateway) (space : UInt64) (t : Transaction) (item : TransactionItem)
    (units : UInt32) (total : Decimal) (refund : Refund) (after : Gateway) : Prop where
  booked : ∃ request, request.Names t none [⟨item.uniqueId, units, 0⟩] ∧
    g.Booked space request t total refund after
  amount_eq : refund.amount.toRat = unitsPrice item.unitPrice units

variable {g after : Gateway} {space : UInt64} {t : Transaction} {item : TransactionItem}
  {count places : ℕ} {units : UInt32} {total : Decimal} {refund : Refund} {request : RefundRequest}

namespace Offers

variable (h : g.Offers space t item count)
include h

theorem le_quantity (hunits : units.toNat ≤ count) : units ≤ item.quantity := by
  have hcounted := h.counted
  rw [UInt32.le_iff_toNat_le]
  omega

theorem exists_refundableUnits :
    ∃ left, t.refundableUnits (g.refundsOf space t.id) item.uniqueId = .ok left ∧
      count ≤ left.toNat := by
  have hcounted := h.counted
  obtain ⟨left, hleft⟩ : ∃ left,
      t.refundableUnits (g.refundsOf space t.id) item.uniqueId = .ok left := by
    apply Transaction.exists_refundableUnits
    intro item' hitem'
    obtain rfl := Option.some.inj (h.item_eq.symm.trans hitem')
    omega
  have hexact := Transaction.toNat_of_refundableUnits h.item_eq hleft
  exact ⟨left, hleft, by omega⟩

/-- A request for units on offer is built. -/
theorem exists_ofUnits (hunits : units.toNat ≤ count) (hpositive : 0 < units.toNat)
    (token : String) :
    ∃ request, RefundRequest.ofUnits t token item.uniqueId units = .ok (some request) ∧
      request.Names t none [⟨item.uniqueId, units, 0⟩] := by
  obtain ⟨full, hfull, hauthorized⟩ := h.priced units hunits
  obtain ⟨request, hrequest⟩ : ∃ request, RefundRequest.forTransaction t token none
      [⟨item.uniqueId, units, 0⟩] = .ok request :=
    RefundRequest.exists_forTransaction_iff.mpr ⟨h.id_pos, by simpa using h.named⟩
  refine ⟨request, ?_, RefundRequest.names_of_forTransaction hrequest⟩
  refine RefundRequest.ofUnits_eq_ok.mpr ⟨item, h.item_eq, full, ?_⟩
  rw [RefundRequest.unitsReduction_of_pos hpositive]
  exact ⟨hfull, h.fulfilled, hauthorized, hrequest⟩

end Offers

namespace Returns

variable (h : g.Returns space t item units total refund after)
include h

theorem refundsOf_after : after.refundsOf space t.id = g.refundsOf space t.id ++ [refund] := by
  obtain ⟨request, hnames, hbooked⟩ := h.booked
  rw [hbooked.refundsOf_after, hnames.transaction_eq, if_pos rfl]

theorem transaction?_after : after.transaction? space t.id = some { t with refunded := total } := by
  obtain ⟨request, hnames, hbooked⟩ := h.booked
  rw [hbooked.transaction?_after, hnames.transaction_eq, if_pos rfl]

theorem toNat_sequence_after : after.sequence.toNat = g.sequence.toNat + 1 := by
  obtain ⟨request, -, hbooked⟩ := h.booked
  exact hbooked.toNat_sequence_after

theorem takenUnits_after :
    takenUnits (after.refundsOf space t.id) item.uniqueId =
      takenUnits (g.refundsOf space t.id) item.uniqueId + units.toNat := by
  obtain ⟨request, hnames, hbooked⟩ := h.booked
  rw [hbooked.takenUnits_after, hnames.transaction_eq, hnames.reductions_eq, if_pos rfl]
  simp

/-- What was given back is offered no more, and all other units still are. -/
theorem offers_after (hoffers : g.Offers space t item count) {rest : ℕ}
    (hrest : units.toNat + rest ≤ count) :
    after.Offers space { t with refunded := total } item rest where
  found := h.transaction?_after
  item_eq := hoffers.item_eq
  id_pos := hoffers.id_pos
  named := hoffers.named
  fulfilled := hoffers.fulfilled
  supported := hoffers.supported
  counted := by
    have hcounted := hoffers.counted
    rw [h.takenUnits_after]
    omega
  priced := fun more hmore ↦ hoffers.priced more (by omega)

theorem fits (hroom : t.HasRoomAt places) :
    t.refunded.toRat + unitsPrice item.unitPrice units ≤ t.captured.toRat := by
  obtain ⟨request, -, hbooked⟩ := h.booked
  rw [← h.amount_eq]
  exact hroom.fits_of_within hbooked.within

theorem toRat_total (hroom : t.HasRoomAt places) (hprice : 0 ≤ item.unitPrice.toRat) :
    total.toRat = t.refunded.toRat + unitsPrice item.unitPrice units := by
  obtain ⟨request, -, hbooked⟩ := h.booked
  have hnonneg := unitsPrice_nonneg hprice units
  rw [← h.amount_eq] at hnonneg ⊢
  exact hroom.toRat_total hbooked.total_eq hbooked.amount_isCents hnonneg
    (hroom.fits_of_within hbooked.within)

theorem hasRoomAt_after (hroom : t.HasRoomAt places) (hprice : 0 ≤ item.unitPrice.toRat) :
    ({ t with refunded := total } : Transaction).HasRoomAt places := by
  obtain ⟨request, -, hbooked⟩ := h.booked
  have hnonneg := unitsPrice_nonneg hprice units
  rw [← h.amount_eq] at hnonneg
  exact hroom.after hbooked.total_eq hbooked.amount_isCents hnonneg
    (hroom.fits_of_within hbooked.within)

end Returns

/-- A request for units that was booked gave them back at their price. -/
theorem returns_of_createRefund {full : Decimal} (ht : g.transaction? space t.id = some t)
    (hitem : t.item? item.uniqueId = some item)
    (hnames : request.Names t none [⟨item.uniqueId, units, 0⟩]) (hunits : units ≤ item.quantity)
    (hfull : (Decimal.ofUInt32 units).mul item.unitPrice = .ok full)
    (h : g.createRefund space request = .ok (refund, after)) :
    ∃ total, g.Returns space t item units total refund after := by
  obtain ⟨t', total, hbooked⟩ := booked_of_createRefund h
  have hfound := hbooked.found
  rw [hnames.transaction_eq, ht] at hfound
  obtain rfl := Option.some.inj hfound
  obtain ⟨amount, hamount, hprice⟩ := hnames.exists_value_units hitem hunits hfull
  obtain rfl : refund.amount = amount := Except.ok.inj (hbooked.priced.symm.trans hamount)
  exact ⟨total, ⟨request, hnames, hbooked⟩, hprice⟩

/-- Units on offer are given back if there is a number for the refund and their price is left. -/
theorem Offers.exists_createRefund (h : g.Offers space t item count)
    (hnumber : g.sequence.toNat + 1 < UInt64.size) (hroom : t.HasRoomAt places)
    (hprice : 0 ≤ item.unitPrice.toRat)
    (hnames : request.Names t none [⟨item.uniqueId, units, 0⟩]) (hunits : units.toNat ≤ count)
    (hfits : t.refunded.toRat + unitsPrice item.unitPrice units ≤ t.captured.toRat) :
    ∃ refund after, g.createRefund space request = .ok (refund, after) := by
  obtain ⟨full, hfull, -⟩ := h.priced units hunits
  obtain ⟨amount, hamount, hworth⟩ :=
    hnames.exists_value_units (t := t) h.item_eq (h.le_quantity hunits) hfull
  have hbook := hroom.exists_book h.supported hamount
    (hworth ▸ unitsPrice_nonneg hprice units) (hworth ▸ hfits) (g.sequence + 1)
  have ht : g.transaction? space request.transaction = some t := hnames.transaction_eq ▸ h.found
  obtain ⟨-, refund, after, hcreated, -⟩ := exists_booked_of_book hnumber ht hbook
  exact ⟨refund, after, hcreated⟩

end Gateway
end ShopPayments
