import ShopPayments.Payload.Preparation
import ShopPayments.Proofs.Payload.Items

/-!
# What a payload is made of is valid

Checks do not look into the parts of what they check, so every part has to be valid by itself:
addresses and products are checked when they are built, discounts and shipping charges are cut to
the right lengths.  There is one text that is neither checked nor cut, the title of the tax of a
shipping charge that is one of several.  It is too long for a negative rate with all the digits
there can be, and for no other (`HasLongTitle`).
-/

namespace ShopPayments
namespace Sale

variable {s : Sale} {items : List LineItem}

/-! ## Line items -/

/-- A line item is valid, and so are its attributes. -/
def IsValidLine (item : LineItem) : Prop :=
  isValid item = true ∧ ∀ e ∈ item.attributes.entries, isValid e.2 = true

theorem isValidLine_of_mem_items (h : s.items = .ok items) : ∀ item ∈ items, IsValidLine item := by
  have hempty (item : LineItem) (hnone : item.attributes = .empty) :
      ∀ e ∈ item.attributes.entries, isValid e.2 = true := by
    intro e he
    rw [hnone] at he
    exact absurd he List.not_mem_nil
  refine forall_of_items h ?_ ?_
  · intro built hbuilt
    refine forall_of_builtItems hbuilt ?_ ?_ ?_
    · intro i item hitem
      exact ⟨hitem.valid, hitem.valid_attributes⟩
    · intro part _ item hitem
      refine ⟨?_, hempty item (by rw [hitem.item_eq]; rfl)⟩
      rw [hitem.item_eq]
      exact isValid_discountItem s _ _ _
    · intro charge _ item hitem
      refine ⟨?_, hempty item (by rw [hitem.item_eq]; rfl)⟩
      rw [hitem.item_eq]
      exact isValid_shippingLine s charge _
  · intro difference hvalid
    exact ⟨hvalid, hempty _ rfl⟩

/-! ## Taxes -/

/-- The taxes shown for a shipping charge. -/
def shownTaxes (s : Sale) (charge : ShippingCharge) : List LineItemTax :=
  if s.order.isTaxFree then [] else charge.taxes

/-- Only the taxes of shipping charges can fail to be valid. -/
theorem isValid_taxes_iff (h : s.items = .ok items) :
    (∀ item ∈ items, ∀ tax ∈ item.taxes, isValid tax = true) ↔
      ∀ charge ∈ s.shippingCharges, ∀ tax ∈ s.shownTaxes charge, isValid tax = true := by
  constructor
  · intro hvalid charge hcharge
    obtain ⟨built, extra, hbuilt, -, rfl⟩ := items_eq_ok.mp h
    obtain ⟨products, discounts, shipping, hfrom⟩ := exists_builtFrom hbuilt
    obtain ⟨item, hitem, hmade⟩ := exists_of_forall₂_of_mem hfrom.shipping_from.flip hcharge
    have hmem : item ∈ built ++ extra :=
      List.mem_append_left extra (hfrom.perm.mem_iff.mpr (List.mem_append_right _ hitem))
    have htaxes := hvalid item hmem
    rw [hmade.item_eq] at htaxes
    exact htaxes
  · intro hvalid
    refine forall_of_items (P := fun item ↦ ∀ tax ∈ item.taxes, isValid tax = true) h ?_ ?_
    · intro built hbuilt
      refine forall_of_builtItems (P := fun item ↦ ∀ tax ∈ item.taxes, isValid tax = true)
        hbuilt ?_ ?_ ?_
      · intro i item hitem
        exact hitem.valid_taxes
      · intro part _ item hitem tax htax
        rw [hitem.item_eq] at htax
        exact isValid_of_mem_taxes_discountItem htax
      · intro charge hcharge item hitem tax htax
        rw [hitem.item_eq] at htax
        exact hvalid charge hcharge tax htax
    · intro difference _ tax htax
      exact absurd htax List.not_mem_nil

theorem isValid_shareTax_iff (tax : CalculatedTax) :
    isValid (⟨tax.rate, shareTitle tax⟩ : LineItemTax) = true ↔
      Text.size (Money.rateText tax.rate) ≤ 30 := by
  have hprefix : Text.size "Tax rate: " = 10 := by decide
  rw [LineItemTax.isValid_iff_size, shareTitle, Text.size_append, hprefix]
  omega

theorem isValid_taxes_shareCharges_iff (s : Sale) (taxes : List CalculatedTax) :
    (∀ charge ∈ s.shareCharges taxes, ∀ tax ∈ charge.taxes, isValid tax = true) ↔
      ∀ tax ∈ taxes, Text.size (Money.rateText tax.rate) ≤ 30 := by
  have hlists : (∀ charge ∈ s.shareCharges taxes, ∀ tax ∈ charge.taxes, isValid tax = true) ↔
      ∀ shown ∈ (s.shareCharges taxes).map (·.taxes), ∀ tax ∈ shown, isValid tax = true := by
    simp only [List.forall_mem_map]
  rw [hlists, map_shareCharges _ (fun tax ↦ [⟨tax.rate, shareTitle tax⟩]) (fun _ _ ↦ rfl),
    List.forall_mem_map]
  simp only [List.mem_singleton, forall_eq, isValid_shareTax_iff]

/-- Shipping costs are split by taxes of which one has a negative rate of thirty characters and a
minus. -/
def HasLongTitle (s : Sale) : Prop :=
  s.order.isTaxFree = false ∧ 0 < s.order.shippingTotal ∧
    s.order.shippingCosts.taxes.length ≠ 1 ∧
    ∃ tax ∈ s.order.shippingCosts.taxes, tax.rate < 0 ∧ Text.size (Money.rateText tax.rate) = 31

theorem exists_long_rate_iff (taxes : List CalculatedTax) :
    (∃ tax ∈ taxes, tax.rate < 0 ∧ Text.size (Money.rateText tax.rate) = 31) ↔
      ¬ ∀ tax ∈ taxes, Text.size (Money.rateText tax.rate) ≤ 30 := by
  constructor
  · rintro ⟨tax, htax, -, hsize⟩ hshort
    have := hshort tax htax
    omega
  · intro hlong
    simp only [not_forall, not_le] at hlong
    obtain ⟨tax, htax, hsize⟩ := hlong
    have hle := Money.size_rateText_le tax.rate
    exact ⟨tax, htax, (Decimal.toRat_neg_iff _).mpr (Money.neg_of_lt_size_rateText hsize), by omega⟩

theorem isValid_shownTaxes_iff (s : Sale) :
    (∀ charge ∈ s.shippingCharges, ∀ tax ∈ s.shownTaxes charge, isValid tax = true) ↔
      ¬ s.HasLongTitle := by
  unfold HasLongTitle
  rw [exists_long_rate_iff]
  cases hfree : s.order.isTaxFree with
  | true => simp [shownTaxes, hfree]
  | false =>
    have hshown (charge : ShippingCharge) : s.shownTaxes charge = charge.taxes := by
      simp [shownTaxes, hfree]
    simp only [hshown]
    by_cases hone : s.order.shippingCosts.taxes.length = 1
    · refine iff_of_true ?_ (by simp [hone])
      rw [shippingCharges, if_pos hone]
      split
      · exact fun charge hcharge ↦ absurd hcharge List.not_mem_nil
      · intro charge hcharge tax htax
        rw [List.mem_singleton.mp hcharge] at htax
        obtain ⟨calculated, -, rfl⟩ := List.mem_map.mp htax
        exact isValid_titledTax _ calculated
    · rw [shippingCharges, if_neg hone]
      by_cases hnone : s.order.shippingTotal ≤ 0
      · refine iff_of_true ?_ fun h ↦ Decimal.not_lt_iff_le.mpr hnone h.2.1
        rw [if_pos hnone]
        exact fun charge hcharge ↦ absurd hcharge List.not_mem_nil
      · have hcosts : 0 < s.order.shippingTotal :=
          not_not.mp fun hnot ↦ hnone (Decimal.not_lt_iff_le.mp hnot)
        rw [if_neg hnone, isValid_taxes_shareCharges_iff]
        simp [hcosts, hone]

/-! ## Payloads -/

theorem isValid_payloadAddress {customer : Customer} {own : Address} {withTaxNumber : Bool}
    {a : PayloadAddress} (h : customer.payloadAddress own withTaxNumber = .ok a) :
    isValid a = true := by
  obtain ⟨hvalid, rfl⟩ := ensureValid_eq_ok.mp h
  exact hvalid

/-- **Everything in a payload is valid but the long titles of shipping taxes.** -/
theorem payload_valid {customer : Customer} {pending : PendingTransaction} {method : UInt64}
    {p : Payload} (h : s.payload customer pending method = .ok p) :
    isValid p = true ∧
      (∃ a, p.billing = some a ∧ isValid a = true) ∧
      (∃ a, p.shipping = some a ∧ isValid a = true) ∧
      (∀ item ∈ p.items, isValid item = true ∧
        ∀ e ∈ item.attributes.entries, isValid e.2 = true) ∧
      ((∀ item ∈ p.items, ∀ tax ∈ item.taxes, isValid tax = true) ↔ ¬ s.HasLongTitle) := by
  simp only [payload, bind_eq_ok, ensureValid_eq_ok] at h
  obtain ⟨items, hitems, billing, hbilling, shipping, hshipping, hvalid, rfl⟩ := h
  refine ⟨hvalid, ⟨billing, rfl, isValid_payloadAddress hbilling⟩,
    ⟨shipping, rfl, isValid_payloadAddress hshipping⟩, isValidLine_of_mem_items hitems, ?_⟩
  rw [← isValid_shownTaxes_iff]
  exact isValid_taxes_iff hitems

/-- An address without any line. -/
def blankAddress : Address :=
  ⟨none, none, none, none, none, none, none, none, none, none, none, none, none⟩

/-- A customer without an account. -/
def guest : Customer where
  number := none
  guest := true
  email := "jane@example.com"
  firstName := none
  lastName := none
  salutation := none
  birthday := none
  vatIds := []
  billing := blankAddress
  shipping := blankAddress
  usualBilling := none
  usualShipping := none

/-- A hat for 20 with shipping costs of 6 under two taxes, one of them with a rate of 31
characters. -/
def longRateSale : Sale :=
  shopSale true
    (shopOrder [shopItem "hat" .product (.ofUInt32 20) []] (.ofUInt32 6)
      [⟨0, .ofUInt32 19, .ofUInt32 4⟩,
        ⟨0, .signed true 1234567890123456789012345678 28 (by decide) (by decide), .ofUInt32 2⟩]
      (.ofUInt32 26))

theorem hasLongTitle_longRateSale : longRateSale.HasLongTitle := by
  refine ⟨rfl, by decide, by decide, _, List.mem_cons_of_mem _ List.mem_cons_self, by decide, ?_⟩
  decide +kernel

theorem payload_valid_longRate :
    ∃ p, longRateSale.payload guest ⟨5, 2, "https://shop.example/finish"⟩ 77 = .ok p ∧
      isValid p = true ∧ ∃ item ∈ p.items, ∃ tax ∈ item.taxes, isValid tax = false := by
  obtain ⟨items, hitems⟩ : ∃ items, longRateSale.items = .ok items := by
    have hbuilt : longRateSale.builtItems = .ok (_ :: _) := builtItems_of_product rfl rfl rfl
    exact ⟨_, items_eq_ok.mpr ⟨_, [], hbuilt, rfl, rfl⟩⟩
  have hpayload : ∃ p,
      longRateSale.payload guest ⟨5, 2, "https://shop.example/finish"⟩ 77 = .ok p := by
    apply Exists.intro
    rw [payload, hitems, ok_bind]
    apply ensureValid_of_isValid
    simp only [isValid_iff, Validated.violations, List.append_eq_nil_iff]
    and_intros <;> rfl
  obtain ⟨p, hp⟩ := hpayload
  obtain ⟨hvalid, -, -, -, htaxes⟩ := payload_valid hp
  refine ⟨p, hp, hvalid, ?_⟩
  by_contra hall
  apply htaxes.not.mpr (not_not_intro hasLongTitle_longRateSale)
  intro item hitem tax htax
  by_contra hinvalid
  exact hall ⟨item, hitem, tax, htax, Bool.eq_false_of_not_eq_true hinvalid⟩

end Sale
end ShopPayments
