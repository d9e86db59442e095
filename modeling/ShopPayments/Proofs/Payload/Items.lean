import ShopPayments.Payload.Items
import ShopPayments.Proofs.Payload.Discounts
import ShopPayments.Proofs.Payload.Shipping
import ShopPayments.Proofs.Sorting

/-!
# Where the line items of a sale come from

The built line items are the products, the discounts and the shipping charges in some order, each
of them with an amount of at most two places, and they fail for no other cause than an overflow or
an item that is not valid (`failsOnly_builtItems`).  The adjustment looks at the rounded difference
between the total of the order and the sum of the amounts, which is exact as long as all of them
have room (`exists_difference`).
-/

namespace ShopPayments
namespace Sale

variable {s : Sale} {items built : List LineItem}

/-! ## Sorting -/

theorem sortByName_perm (items : List LineItem) : (sortByName items).Perm items :=
  List.mergeSort_perm items _

theorem sortByName_of_sorted (h : items.Pairwise fun a b ↦ a.name ≤ b.name) :
    sortByName items = items := by
  apply List.mergeSort_of_pairwise
  exact h.imp fun hle ↦ decide_eq_true hle

theorem pairwise_sortByName (items : List LineItem) :
    (sortByName items).Pairwise fun a b ↦ a.name ≤ b.name :=
  (List.pairwise_mergeSort (Sorting.textLe_trans _) (Sorting.textLe_total _) items).imp
    of_decide_eq_true

/-- Items of one name stay in their order. -/
theorem filter_sortByName (items : List LineItem) (name : String) :
    (sortByName items).filter (·.name = name) = items.filter (·.name = name) := by
  rw [sortByName, Sorting.filter_mergeSort (Sorting.textLe_trans _) (Sorting.textLe_total _)]
  apply sortByName_of_sorted
  apply List.pairwise_of_forall_mem_list
  intro a ha b hb
  have hname (item : LineItem) (hitem : item ∈ items.filter (·.name = name)) : item.name = name :=
    of_decide_eq_true (List.mem_filter.mp hitem).2
  rewrite [hname a ha, hname b hb]
  exact String.le_refl name

/-! ## Built items -/

/-- The items are products, discounts and shipping in some order. -/
structure BuiltFrom (s : Sale) (products discounts shipping built : List LineItem) : Prop where
  products_from : List.Forall₂ s.IsProductOf s.chargedItems products
  discounts_from : List.Forall₂ s.IsDiscountOf s.discountParts discounts
  shipping_from : List.Forall₂ s.IsShippingOf s.shippingCharges shipping
  perm : built.Perm (products ++ discounts ++ shipping)

theorem exists_builtFrom (h : s.builtItems = .ok built) :
    ∃ products discounts shipping, s.BuiltFrom products discounts shipping built := by
  simp only [builtItems, bind_eq_ok, pure_eq_ok] at h
  obtain ⟨products, hproducts, discounts, hdiscounts, shipping, hshipping, rfl⟩ := h
  exact ⟨products, discounts, shipping, forall₂_productItems hproducts,
    forall₂_discountItems hdiscounts, forall₂_shippingItems hshipping,
    (sortByName_perm _).append_right shipping⟩

/-- What holds of every product, every discount and every shipping charge holds of all items. -/
theorem forall_of_builtItems {P : LineItem → Prop} (h : s.builtItems = .ok built)
    (hproduct : ∀ i item, s.IsProductOf i item → P item)
    (hdiscount : ∀ part ∈ s.discountParts, ∀ item, s.IsDiscountOf part item → P item)
    (hshipping : ∀ charge ∈ s.shippingCharges, ∀ item, s.IsShippingOf charge item → P item) :
    ∀ item ∈ built, P item := by
  obtain ⟨products, discounts, shipping, hfrom⟩ := exists_builtFrom h
  intro item hitem
  rcases List.mem_append.mp (hfrom.perm.mem_iff.mp hitem) with hgoods | hcharge
  · rcases List.mem_append.mp hgoods with hgood | hpromoted
    · obtain ⟨i, -, hi⟩ := exists_of_forall₂_of_mem hfrom.products_from hgood
      exact hproduct i item hi
    · obtain ⟨part, hpart, hitem⟩ := exists_of_forall₂_of_mem hfrom.discounts_from hpromoted
      exact hdiscount part hpart item hitem
  · obtain ⟨charge, hmem, hitem⟩ := exists_of_forall₂_of_mem hfrom.shipping_from hcharge
    exact hshipping charge hmem item hitem

theorem builtItems_of_sorted {products discounts shipping : List LineItem}
    (hproducts : s.productItems = .ok products) (hdiscounts : s.discountItems = .ok discounts)
    (hshipping : s.shippingItems = .ok shipping)
    (hsorted : (products ++ discounts).Pairwise fun a b ↦ a.name ≤ b.name) :
    s.builtItems = .ok (products ++ discounts ++ shipping) := by
  rw [builtItems, hproducts, hdiscounts, hshipping, ok_bind, ok_bind, ok_bind,
    sortByName_of_sorted hsorted, pure_eq]

theorem builtItems_of_product {item : LineItem} {shipping : List LineItem}
    (hproducts : s.productItems = .ok [item]) (hdiscounts : s.discountItems = .ok [])
    (hshipping : s.shippingItems = .ok shipping) : s.builtItems = .ok (item :: shipping) :=
  builtItems_of_sorted hproducts hdiscounts hshipping (List.pairwise_singleton _ _)

theorem scale_le_of_mem_builtItems (h : s.builtItems = .ok built) :
    ∀ item ∈ built, item.amount.scale ≤ Money.places := by
  refine forall_of_builtItems (P := fun item ↦ item.amount.scale ≤ Money.places) h ?_ ?_ ?_
  · intro i item hitem
    exact scale_chargeFor_le hitem.charged
  · intro part hpart item hitem
    exact scale_le_of_mem_discountParts hpart hitem.charged
  · intro charge _ item hitem
    exact scale_chargeFor_le hitem.charged

theorem failsOnly_builtItems (s : Sale) : FailsOnly Failure.OfItem s.builtItems := by
  apply (failsOnly_productItems s).bind
  intro products _
  apply ((failsOnly_discountItems s).imp fun _ ↦ Failure.IsOverflow.ofItem).bind
  intro discounts _
  apply ((failsOnly_shippingItems s).imp fun _ ↦ Failure.IsOverflow.ofItem).bind
  intro shipping _
  exact .pure _

theorem builtItems_ne_totalMismatch (s : Sale) (itemTotal orderTotal : Decimal) :
    s.builtItems ≠ .error (.totalMismatch itemTotal orderTotal) := by
  intro h
  cases failsOnly_builtItems s _ h

/-! ## Adjustment -/

/-- Sum of the amounts. -/
def amountSum (items : List LineItem) : ℚ := Decimal.sumRat (items.map (·.amount))

/-- Sum of the absolute amounts. -/
def amountAbs (items : List LineItem) : ℚ := Decimal.sumAbs (items.map (·.amount))

theorem amountSum_append (items more : List LineItem) :
    amountSum (items ++ more) = amountSum items + amountSum more := by
  simp [amountSum, Decimal.sumRat]

theorem amountAbs_append (items more : List LineItem) :
    amountAbs (items ++ more) = amountAbs items + amountAbs more := by
  rw [amountAbs, List.map_append, Decimal.sumAbs_append]
  rfl

/-- The sum of amounts in cents is exact if they have room. -/
theorem exists_itemTotal (hcents : ∀ item ∈ items, item.amount.scale ≤ Money.places)
    (hroom : amountAbs items * 10 ^ Money.places < Decimal.magnitudeBound) :
    ∃ total, itemTotal items = .ok total ∧ total.toRat = amountSum items := by
  apply Decimal.exists_sum Money.places_le_maxScale _ hroom
  intro d hd
  obtain ⟨item, hitem, rfl⟩ := List.mem_map.mp hd
  exact (Decimal.hasPlaces_scale item.amount).mono (hcents item hitem)

theorem items_eq_ok : s.items = .ok items ↔
    ∃ built extra, s.builtItems = .ok built ∧ s.adjustment built = .ok extra ∧
      items = built ++ extra := by
  simp only [Sale.items, bind_eq_ok, pure_eq_ok]
  constructor
  · rintro ⟨built, hbuilt, extra, hextra, rfl⟩
    exact ⟨built, extra, hbuilt, hextra, rfl⟩
  · rintro ⟨built, extra, hbuilt, hextra, rfl⟩
    exact ⟨built, hbuilt, extra, hextra, rfl⟩

theorem items_eq_of_adjustment (hbuilt : s.builtItems = .ok built) :
    s.items = (s.adjustment built >>= fun extra ↦ pure (built ++ extra)) := by
  rw [Sale.items, hbuilt, ok_bind]

variable {total difference : Decimal}

theorem adjustment_eq (htotal : itemTotal built = .ok total)
    (hdifference : s.order.total.sub total = .ok difference) :
    s.adjustment built =
      if |difference.toRat| < 1 / 200 then .ok []
      else if s.settings.strictTotals then .error (.totalMismatch total s.order.total)
      else ensureValid (s.adjustmentItem (Money.round difference)) >>= fun item ↦ pure [item] := by
  have hzero : (Money.round difference).isZero = true ↔ |difference.toRat| < 1 / 200 := by
    rw [Decimal.isZero_iff_toRat_eq_zero, Money.toRat_round_eq_zero_iff]
  simp only [adjustment, htotal, liftOverflow_ok, ok_bind, hdifference, hzero]
  rfl

/-- The adjustment is a single valid item for a rounded difference, if there is one at all. -/
theorem adjustment_cases {extra : List LineItem} (h : s.adjustment built = .ok extra) :
    extra = [] ∨ ∃ difference, isValid (s.adjustmentItem (Money.round difference)) = true ∧
      extra = [s.adjustmentItem (Money.round difference)] := by
  simp only [adjustment, bind_eq_ok] at h
  obtain ⟨total, -, difference, -, h⟩ := h
  split at h
  · exact .inl (pure_eq_ok.mp h).symm
  · split at h
    · exact absurd h throw_ne_ok
    · simp only [bind_eq_ok, ensureValid_eq_ok, pure_eq_ok] at h
      obtain ⟨item, ⟨hvalid, rfl⟩, rfl⟩ := h
      exact .inr ⟨difference, hvalid, rfl⟩

/-- What holds of the built items and of every valid adjustment holds of all items. -/
theorem forall_of_items {P : LineItem → Prop} (h : s.items = .ok items)
    (hbuilt : ∀ built, s.builtItems = .ok built → ∀ item ∈ built, P item)
    (hadjustment : ∀ difference, isValid (s.adjustmentItem (Money.round difference)) = true →
      P (s.adjustmentItem (Money.round difference))) :
    ∀ item ∈ items, P item := by
  obtain ⟨built, extra, hitems, hextra, rfl⟩ := items_eq_ok.mp h
  intro item hitem
  rcases List.mem_append.mp hitem with hmem | hmem
  · exact hbuilt built hitems item hmem
  · rcases adjustment_cases hextra with rfl | ⟨difference, hvalid, rfl⟩
    · exact absurd hmem List.not_mem_nil
    · rw [List.mem_singleton.mp hmem]
      exact hadjustment difference hvalid

theorem scale_le_of_mem_items (h : s.items = .ok items) :
    ∀ item ∈ items, item.amount.scale ≤ Money.places := by
  refine forall_of_items (P := fun item ↦ item.amount.scale ≤ Money.places) h ?_ ?_
  · intro built hbuilt
    exact scale_le_of_mem_builtItems hbuilt
  · intro difference _
    exact Money.round_scale_le difference

/-- Out of strict mode the adjustment turns no sale down for its difference. -/
theorem failsOnly_adjustment (hlenient : s.settings.strictTotals = false)
    (built : List LineItem) : FailsOnly Failure.OfItem (s.adjustment built) := by
  unfold adjustment
  apply ((failsOnly_liftOverflow _).imp fun _ ↦ Failure.IsOverflow.ofItem).bind
  intro total _
  apply ((failsOnly_liftOverflow _).imp fun _ ↦ Failure.IsOverflow.ofItem).bind
  intro difference _
  dsimp only
  rw [hlenient]
  split
  · exact .pure _
  · apply (failsOnly_ensureValid _).bind
    intro item _
    exact .pure _

/-! ## A small shop -/

/-- An item of an order for a price with its taxes. -/
def shopItem (id : String) (kind : ItemKind) (price : Decimal) (taxes : List CalculatedTax) :
    OrderItem where
  id
  parentId := none
  kind
  label := some id
  productId := none
  quantity := 1
  total := some price
  price := ⟨price, 1, price, taxes, []⟩
  definition := some .absolute
  product := ⟨none, []⟩

/-- An order of items with shipping costs. -/
def shopOrder (items : List OrderItem) (shipping : Decimal) (taxes : List CalculatedTax)
    (total : Decimal) : Order where
  id := "order-1"
  number := "10001"
  currency := "EUR"
  taxStatus := .gross
  total
  shippingTotal := shipping
  shippingCosts := ⟨shipping, 1, shipping, taxes, []⟩
  items
  comment := none
  transactionIds := []

/-- The sale of an order, in strict mode or not. -/
def shopSale (strict : Bool) (order : Order) : Sale where
  order
  context := ⟨"channel", "card", some "Standard", none⟩
  settings :=
    { spaceId := 1
      userId := 7
      applicationKey := "key"
      spaceViewId := none
      integration := .paymentPage
      emailEnabled := true
      strictTotals := strict
      invoiceDownload := true
      webhooksUpdate := true
      paymentsUpdate := true
      defaultTaxRate := SettingsValues.standardTaxRate
      storefrontUrl := "https://shop.example" }
  labels := .standard

end Sale
end ShopPayments
