import ShopPayments.Proofs.Payload.Items

/-!
# The shipping costs among the line items

Between the sorted goods and the adjustment stand the items for shipping.  Neither way of building
them fails for anything but an overflow, so shipping costs are never left to the adjustment, and
number, order, types and amounts of the items are determined by the taxes of the shipping costs
(`shipping_never_dropped`).
-/

namespace ShopPayments
namespace Sale

variable {s : Sale} {items : List LineItem} {price amount : Decimal} {tax : Except Overflow Decimal}

/-- The amount is that of the price in cents, with the tax on top of it where prices are net. -/
structure IsCharge (s : Sale) (price : Decimal) (tax : Except Overflow Decimal) (amount : Decimal) :
    Prop where
  of_not_net : s.order.isNet = false → amount = Money.round price
  of_net : s.order.isNet = true →
    ∃ top full, tax = .ok top ∧ (Money.round price).add top = .ok full ∧ amount = Money.round full

theorem isCharge_of_chargeFor (h : s.chargeFor price tax = .ok amount) :
    s.IsCharge price tax amount where
  of_not_net hgross := by
    rw [chargeFor_of_not_net hgross] at h
    exact (Except.ok.inj h).symm
  of_net hnet := by
    simp only [chargeFor, hnet, if_true, bind_eq_ok, liftOverflow_eq_ok, pure_eq_ok] at h
    obtain ⟨top, htop, full, hfull, hamount⟩ := h
    exact ⟨top, full, htop, hfull, hamount.symm⟩

/-- One item for the shipping total under a single tax, and one for each tax otherwise. -/
structure IsShippingPart (s : Sale) (shipping : List LineItem) : Prop where
  whole : s.order.shippingCosts.taxes.length = 1 → 0 < Money.round s.order.shippingTotal →
    ∃ item, shipping = [item] ∧ item.type = .shipping ∧
      s.IsCharge s.order.shippingTotal s.order.shippingCosts.taxAmount item.amount
  whole_free : s.order.shippingCosts.taxes.length = 1 → ¬ 0 < Money.round s.order.shippingTotal →
    shipping = []
  split : s.order.shippingCosts.taxes.length ≠ 1 → 0 < s.order.shippingTotal →
    List.Forall₂ (fun tax item ↦ s.IsCharge tax.price (.ok tax.tax) item.amount)
      s.order.shippingCosts.taxes shipping ∧
    ∀ i (hi : i < shipping.length), shipping[i].type = if i = 0 then .shipping else .fee
  split_free : s.order.shippingCosts.taxes.length ≠ 1 → ¬ 0 < s.order.shippingTotal →
    shipping = []

theorem IsShippingOf.type_eq {charge : ShippingCharge} {item : LineItem}
    (h : s.IsShippingOf charge item) : item.type = charge.type := by
  rw [h.item_eq]
  rfl

theorem forall₂_charge_of_shareCharges {taxes : List CalculatedTax}
    (h : List.Forall₂ s.IsShippingOf (s.shareCharges taxes) items) :
    List.Forall₂ (fun tax item ↦ s.IsCharge tax.price (.ok tax.tax) item.amount) taxes items := by
  cases taxes with
  | nil =>
    rw [List.forall₂_nil_left_iff.mp h]
    exact .nil
  | cons first others =>
    obtain ⟨item, rest, hitem, hrest, rfl⟩ := List.forall₂_cons_left_iff.mp h
    refine .cons (isCharge_of_chargeFor hitem.charged) ?_
    exact (List.forall₂_map_left_iff.mp hrest).imp fun _ _ hfee ↦
      isCharge_of_chargeFor hfee.charged

theorem type_eq_of_shareCharges {taxes : List CalculatedTax}
    (h : List.Forall₂ s.IsShippingOf (s.shareCharges taxes) items) (i : ℕ)
    (hi : i < items.length) : items[i].type = if i = 0 then .shipping else .fee := by
  cases taxes with
  | nil =>
    rw [List.forall₂_nil_left_iff.mp h] at hi
    exact absurd hi (Nat.not_lt_zero i)
  | cons first others =>
    obtain ⟨item, rest, hitem, hrest, rfl⟩ := List.forall₂_cons_left_iff.mp h
    cases i with
    | zero => exact hitem.type_eq
    | succ j =>
      have hmem : rest.get ⟨j, Nat.lt_of_succ_lt_succ hi⟩ ∈ rest := List.get_mem _ _
      obtain ⟨tax, -, hfee⟩ := exists_of_forall₂_of_mem (List.forall₂_map_left_iff.mp hrest) hmem
      exact hfee.type_eq

theorem isShippingPart_of_shippingItems (h : s.shippingItems = .ok items) :
    s.IsShippingPart items := by
  have hcharges := forall₂_shippingItems h
  have hpos {d : Decimal} : 0 < d ↔ ¬ d ≤ 0 := by
    rw [← Decimal.not_lt_iff_le, not_not]
  unfold shippingCharges at hcharges
  constructor
  · intro hone hcosts
    rw [if_pos hone, if_neg (hpos.mp hcosts)] at hcharges
    obtain ⟨item, rest, hitem, hrest, rfl⟩ := List.forall₂_cons_left_iff.mp hcharges
    rw [List.forall₂_nil_left_iff.mp hrest]
    exact ⟨item, rfl, hitem.type_eq, isCharge_of_chargeFor hitem.charged⟩
  · intro hone hfree
    rw [if_pos hone, if_pos (not_not.mp (hpos.not.mp hfree))] at hcharges
    exact List.forall₂_nil_left_iff.mp hcharges
  · intro hmany hcosts
    rw [if_neg hmany, if_neg (hpos.mp hcosts)] at hcharges
    exact ⟨forall₂_charge_of_shareCharges hcharges, type_eq_of_shareCharges hcharges⟩
  · intro hmany hfree
    rw [if_neg hmany, if_pos (not_not.mp (hpos.not.mp hfree))] at hcharges
    exact List.forall₂_nil_left_iff.mp hcharges

end Sale
end ShopPayments
