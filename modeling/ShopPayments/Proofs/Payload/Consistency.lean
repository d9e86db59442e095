import ShopPayments.Proofs.Payload.Balance

/-!
# Orders that need no adjustment

An order is consistent if its items and its shipping taxes add up to its total in cents.  Whether
the shipping costs are charged as a whole or tax by tax, the amounts of the line items are then the
prices that were added up, so neither mode finds a difference.  This takes room for cents in the
prices, and shipping costs that have calculated taxes.
-/

namespace ShopPayments

namespace Order

/-- The prices of the items. -/
def itemPrices (o : Order) : List Decimal := o.items.map fun i ↦ i.total.getD 0

/-- The prices of the calculated shipping taxes. -/
def shippingPrices (o : Order) : List Decimal := o.shippingCosts.taxes.map (·.price)

/-- Prices include taxes or there are none, every item is charged for itself, all prices are in
cents, the total is the sum of the items and the shipping costs, and the calculated shipping taxes,
if there are any, have the shipping costs as their prices. -/
structure Consistent (o : Order) : Prop where
  not_net : o.isNet = false
  charged : ∀ i ∈ o.items, i.kind ≠ .promotion ∧ i.kind ≠ .custom
  isCents_item : ∀ price ∈ o.itemPrices, Money.IsCents price.toRat
  isCents_tax : ∀ price ∈ o.shippingPrices, Money.IsCents price.toRat
  isCents_shipping : Money.IsCents o.shippingTotal.toRat
  shipping_nonneg : 0 ≤ o.shippingTotal.toRat
  total_eq : o.total.toRat = Decimal.sumRat o.itemPrices + o.shippingTotal.toRat
  shipping_eq : o.shippingPrices ≠ [] →
    Decimal.sumRat o.shippingPrices = o.shippingTotal.toRat

end Order

namespace Sale

variable {s : Sale} {built : List LineItem}

theorem chargedItems_of_consistent (h : s.order.Consistent) : s.chargedItems = s.order.items := by
  rw [chargedItems, List.filter_eq_self]
  intro i hi
  obtain ⟨hpromotion, hcustom⟩ := h.charged i hi
  simp [isCharged, hpromotion, hcustom]

theorem discountParts_of_consistent (h : s.order.Consistent) : s.discountParts = [] := by
  have hnone : s.promotions = [] := by
    rw [promotions, List.filter_eq_nil_iff]
    intro i hi
    simpa using (h.charged i hi).1
  rw [discountParts, hnone]
  rfl

/-- Whichever way the shipping costs take, they are charged as the prices of their taxes. -/
theorem prices_shippingCharges (h : s.order.Consistent) :
    (s.shippingCharges.map fun charge ↦ charge.price.toRat) =
      if s.order.shippingTotal.toRat = 0 then []
      else s.order.shippingPrices.map (·.toRat) := by
  have hround : Money.round s.order.shippingTotal ≤ 0 ↔ s.order.shippingTotal.toRat = 0 := by
    rw [Decimal.le_iff_toRat_le, Decimal.toRat_zero,
      Money.toRat_round_of_isCents h.isCents_shipping]
    exact h.shipping_nonneg.ge_iff_eq'
  have hplain : s.order.shippingTotal ≤ 0 ↔ s.order.shippingTotal.toRat = 0 := by
    rw [Decimal.le_iff_toRat_le, Decimal.toRat_zero]
    exact h.shipping_nonneg.ge_iff_eq'
  have hsum := h.shipping_eq
  unfold shippingCharges
  simp only [hround, hplain, Order.shippingPrices] at hsum ⊢
  by_cases hfree : s.order.shippingTotal.toRat = 0
  · simp [hfree]
  · simp only [if_neg hfree]
    split
    next hone =>
      -- The costs are charged as a whole, and the only tax has them as its price.
      obtain ⟨tax, htax⟩ := List.length_eq_one_iff.mp hone
      have hprice : tax.price.toRat = s.order.shippingTotal.toRat := by
        simpa [htax, Decimal.sumRat] using hsum
      simp [htax, wholeCharge, hprice]
    next =>
      rw [List.map_map]
      exact map_shareCharges _ _ (fun _ _ ↦ rfl) _

theorem isCents_price_of_mem_shippingCharges (h : s.order.Consistent) :
    ∀ charge ∈ s.shippingCharges, Money.IsCents charge.price.toRat := by
  intro charge hcharge
  have hmem := List.mem_map_of_mem (f := fun charge ↦ charge.price.toRat) hcharge
  rw [prices_shippingCharges h] at hmem
  split at hmem
  · exact absurd hmem List.not_mem_nil
  · obtain ⟨price, hprice, heq⟩ := List.mem_map.mp hmem
    exact heq ▸ h.isCents_tax price hprice

/-- Nothing but the prices of the items and of the shipping charges is charged. -/
theorem amounts_of_consistent (h : s.order.Consistent) (hbuilt : s.builtItems = .ok built) :
    (built.map fun item ↦ item.amount.toRat).Perm
      (s.order.itemPrices.map (·.toRat) ++
        s.shippingCharges.map fun charge ↦ charge.price.toRat) := by
  obtain ⟨products, discounts, shipping, hfrom⟩ := exists_builtFrom hbuilt
  have hcharge {price : Decimal} {tax : Except Overflow Decimal} {item : LineItem}
      (hprice : Money.IsCents price.toRat) (hcharged : s.chargeFor price tax = .ok item.amount) :
      item.amount.toRat = price.toRat := by
    rw [chargeFor_of_not_net h.not_net] at hcharged
    rw [← Except.ok.inj hcharged, Money.toRat_round_of_isCents hprice]
  have hproducts : (products.map fun item ↦ item.amount.toRat) =
      s.order.itemPrices.map (·.toRat) := by
    rw [Order.itemPrices, List.map_map, ← chargedItems_of_consistent h]
    apply map_eq_of_forall₂ hfrom.products_from
    intro i hi item hitem
    rw [chargedItems_of_consistent h] at hi
    exact hcharge (h.isCents_item _ (List.mem_map_of_mem hi)) hitem.charged
  have hdiscounts : discounts = [] := by
    have hnone := hfrom.discounts_from
    rwa [discountParts_of_consistent h, List.forall₂_nil_left_iff] at hnone
  have hshipping : (shipping.map fun item ↦ item.amount.toRat) =
      s.shippingCharges.map fun charge ↦ charge.price.toRat := by
    apply map_eq_of_forall₂ hfrom.shipping_from
    intro charge hmem item hitem
    exact hcharge (isCents_price_of_mem_shippingCharges h charge hmem) hitem.charged
  have hperm := hfrom.perm.map fun item ↦ item.amount.toRat
  rwa [hdiscounts, List.append_nil, List.map_append, hproducts, hshipping] at hperm

theorem amountSum_of_consistent (h : s.order.Consistent) (hbuilt : s.builtItems = .ok built)
    (huntaxed : s.order.shippingPrices = [] → s.order.shippingTotal.toRat = 0) :
    amountSum built = s.order.total.toRat := by
  have hshipping : (s.shippingCharges.map fun charge ↦ charge.price.toRat).sum =
      s.order.shippingTotal.toRat := by
    rw [prices_shippingCharges h]
    split
    next hfree => rw [hfree, List.sum_nil]
    next hcosts => exact h.shipping_eq fun hnone ↦ hcosts (huntaxed hnone)
  have hperm := (amounts_of_consistent h hbuilt).sum_eq
  rw [List.sum_append, hshipping] at hperm
  rw [h.total_eq, Decimal.sumRat, ← hperm, amountSum, Decimal.sumRat, List.map_map]
  rfl

theorem amountAbs_of_consistent (h : s.order.Consistent) (hbuilt : s.builtItems = .ok built) :
    amountAbs built ≤ Decimal.sumAbs (s.order.itemPrices ++ s.order.shippingPrices) := by
  have hperm := ((amounts_of_consistent h hbuilt).map abs).sum_eq
  have hamounts : amountAbs built = ((built.map fun item ↦ item.amount.toRat).map abs).sum := by
    simp only [amountAbs, Decimal.sumAbs_eq, List.map_map, Function.comp_def]
  rw [hamounts, hperm, List.map_append, List.sum_append, ← Decimal.sumAbs_eq,
    Decimal.sumAbs_append, prices_shippingCharges h]
  gcongr
  split
  · exact Decimal.sumAbs_nonneg _
  · exact (Decimal.sumAbs_eq _).ge

/-- **A consistent order needs no adjustment**, as long as its prices have room for cents and
shipping costs have calculated taxes. -/
theorem items_of_consistent (h : s.order.Consistent)
    (huntaxed : s.order.shippingPrices = [] → s.order.shippingTotal.toRat = 0)
    (hroom : Decimal.sumAbs (s.order.itemPrices ++ s.order.shippingPrices) * 100 <
      Decimal.magnitudeBound) :
    s.items = s.builtItems ∧
      ∀ sum orderTotal, s.items ≠ .error (.totalMismatch sum orderTotal) := by
  have hitems : s.items = s.builtItems := by
    cases hbuilt : s.builtItems with
    | error cause => rw [Sale.items, hbuilt, error_bind]
    | ok built =>
      have hsum := amountSum_of_consistent h hbuilt huntaxed
      have habs := amountAbs_of_consistent h hbuilt
      have hcents := scale_le_of_mem_builtItems hbuilt
      have htotal : Decimal.HasPlaces Money.places s.order.total.toRat := by
        rw [← hsum]
        exact hasPlaces_amountSum hcents
      obtain ⟨total, difference, htotalSum, hsub, hdifference⟩ :=
        Sale.exists_difference Money.places_le_maxScale le_rfl htotal hcents
          (by norm_num [Money.places]; linarith) (by simp [hsum, Decimal.magnitudeBound])
      have hnone : |difference.toRat| < 1 / 200 := by
        rw [hdifference, hsum, sub_self, abs_zero]
        norm_num
      rw [items_eq_of_adjustment hbuilt, adjustment_eq htotalSum hsub, if_pos hnone, ok_bind,
        List.append_nil, pure_eq]
  refine ⟨hitems, ?_⟩
  rw [hitems]
  exact builtItems_ne_totalMismatch s

theorem consistent_shopOrder {id : String} {price shipping total : Decimal}
    {taxes : List CalculatedTax} (hprice : price.scale ≤ 2) (hshipping : shipping.scale ≤ 2)
    (hnonneg : 0 ≤ shipping) (htaxes : ∀ tax ∈ taxes, tax.price.scale ≤ 2)
    (htotal : total.toRat = price.toRat + shipping.toRat)
    (hsum : taxes ≠ [] → Decimal.sumRat (taxes.map (·.price)) = shipping.toRat) :
    (shopOrder [shopItem id .product price []] shipping taxes total).Consistent where
  not_net := rfl
  charged i hi := by
    rw [List.mem_singleton.mp hi]
    exact ⟨ItemKind.noConfusion, ItemKind.noConfusion⟩
  isCents_item d hd := by
    rw [List.mem_singleton.mp hd]
    exact Money.isCents_of_scale_le hprice
  isCents_tax d hd := by
    obtain ⟨tax, htax, rfl⟩ := List.mem_map.mp hd
    exact Money.isCents_of_scale_le (htaxes tax htax)
  isCents_shipping := Money.isCents_of_scale_le hshipping
  shipping_nonneg := (Decimal.toRat_nonneg_iff shipping).mp hnonneg
  total_eq := by simpa [shopOrder, shopItem, Order.itemPrices, Decimal.sumRat] using htotal
  shipping_eq hsome := hsum fun hnone ↦ hsome (congrArg (List.map CalculatedTax.price) hnone)

/-- A hat for 20 with shipping costs of 6 under two taxes. -/
def hatAndShipping : Sale :=
  shopSale true
    (shopOrder [shopItem "hat" .product (.ofUInt32 20) []] (.ofUInt32 6)
      [⟨0, .ofUInt32 19, .ofUInt32 4⟩, ⟨0, .ofUInt32 7, .ofUInt32 2⟩] (.ofUInt32 26))

theorem items_of_consistent_hatAndShipping :
    hatAndShipping.items = hatAndShipping.builtItems ∧
      ∀ sum orderTotal, hatAndShipping.items ≠ .error (.totalMismatch sum orderTotal) := by
  apply items_of_consistent
  · apply consistent_shopOrder (by decide) (by decide) (by decide) (by decide)
    · simp only [Decimal.toRat_ofUInt32, UInt32.reduceToNat]
      norm_num
    · intro _
      simp only [Decimal.sumRat, List.map_cons, List.map_nil, Decimal.toRat_ofUInt32,
        UInt32.reduceToNat]
      norm_num
  · intro hnone
    cases hnone
  · simp only [Order.itemPrices, Order.shippingPrices, Decimal.sumAbs, hatAndShipping, shopSale,
      shopOrder, shopItem, List.cons_append, List.nil_append, List.map_cons, List.map_nil,
      Option.getD_some, Decimal.toRat_ofUInt32, UInt32.reduceToNat]
    norm_num [Decimal.magnitudeBound]

/-- A hat for 20 with shipping costs of 5 without a tax. -/
def untaxedShipping : Sale :=
  shopSale true
    (shopOrder [shopItem "hat" .product (.ofUInt32 20) []] (.ofUInt32 5) [] (.ofUInt32 25))

/-- A bell whose price has no room for cents, with shipping costs of 1 under two taxes. -/
def bellAndShipping : Sale :=
  let half : Decimal := .signed false 50 Money.places (by decide) Money.places_le_maxScale
  shopSale true
    (shopOrder
      [shopItem "bell" .product
        (.signed false 7922816251426433759354395034 0 (by decide) (Nat.zero_le _)) []]
      (.ofUInt32 1) [⟨0, .ofUInt32 19, half⟩, ⟨0, .ofUInt32 7, half⟩]
      (.signed false 7922816251426433759354395035 0 (by decide) (Nat.zero_le _)))

theorem consistent_totalMismatch :
    (bellAndShipping.order.Consistent ∧ bellAndShipping.settings.strictTotals = true ∧
      ∃ sum, bellAndShipping.items =
        .error (.totalMismatch sum bellAndShipping.order.total)) ∧
    untaxedShipping.order.Consistent ∧ untaxedShipping.settings.strictTotals = true ∧
      untaxedShipping.items = .error (.totalMismatch (.ofUInt32 20) (.ofUInt32 25)) := by
  have hbell : bellAndShipping.items = .error (.totalMismatch
      (.signed false 7922816251426433759354395034 0 (by decide) (by decide))
      bellAndShipping.order.total) := by
    have hbuilt : bellAndShipping.builtItems = .ok (_ :: _) := builtItems_of_product rfl rfl rfl
    rw [items_eq_of_adjustment hbuilt]
    rfl
  have huntaxed : untaxedShipping.items =
      .error (.totalMismatch (.ofUInt32 20) (.ofUInt32 25)) := by
    have hbuilt : untaxedShipping.builtItems = .ok (_ :: _) := builtItems_of_product rfl rfl rfl
    rw [items_eq_of_adjustment hbuilt]
    rfl
  refine ⟨⟨?_, rfl, _, hbell⟩, ?_, rfl, huntaxed⟩
  · apply consistent_shopOrder (by decide) (by decide) (by decide) (by decide)
    · simp only [Decimal.toRat_signed, Decimal.toRat_ofUInt32, UInt32.reduceToNat]
      norm_num
    · intro _
      simp only [Decimal.sumRat, List.map_cons, List.map_nil, Decimal.toRat_signed,
        Decimal.toRat_ofUInt32, UInt32.reduceToNat]
      norm_num [Money.places]
  · apply consistent_shopOrder (by decide) (by decide) (by decide) (by decide)
    · simp only [Decimal.toRat_ofUInt32, UInt32.reduceToNat]
      norm_num
    · intro hsome
      exact absurd rfl hsome

end Sale
end ShopPayments
