import ShopPayments.Proofs.Payload.Items

/-!
# Ids of line items

The id of a product comes from the shop, that of a discount from its rate and the beginning of its
name, that of a shipping charge from its name and, for one of several, from its rate.  Ids from
different sources differ by their first or last characters, unless an id is cut or the shipping
method is named like a discount.  So ids are distinct exactly if no two discounts agree in rate and
beginning, and those two exceptions do not occur.
-/

namespace ShopPayments
namespace Sale

variable {s : Sale} {items : List LineItem}

/-! ## Discounts -/

/-- The id of a discount. -/
def discountId (s : Sale) (name : String) (rate : Decimal) : String :=
  (s.discountItem name 0 rate).uniqueId

/-- What the id of a discount tells: the rate, unless there are no taxes, and as much of the name
as there is room for. -/
def discountMark (s : Sale) (name : String) (rate : Decimal) : Option ℚ × String :=
  if s.order.isTaxFree then (none, Text.cut name 180)
  else (some rate.toRat, Text.cut name (179 - Text.size (Money.rateText rate)))

/-- The two cuts of an id together leave 180 characters behind the fixed beginning. -/
theorem cut_coupon (t : String) :
    Text.cut ("coupon-" ++ Text.cut ("sku-discount-" ++ t) 200) 200 =
      "coupon-sku-discount-" ++ Text.cut t 180 := by
  calc
    Text.cut ("coupon-" ++ Text.cut ("sku-discount-" ++ t) 200) 200 =
        "coupon-" ++ Text.cut (Text.cut ("sku-discount-" ++ t) 200) 193 :=
      Text.cut_append (by decide)
    _ = "coupon-" ++ Text.cut ("sku-discount-" ++ t) 193 := by
      rw [Text.cut_cut]
      rfl
    _ = "coupon-" ++ ("sku-discount-" ++ Text.cut t 180) :=
      congrArg ("coupon-" ++ ·) (Text.cut_append (by decide))
    _ = "coupon-sku-discount-" ++ Text.cut t 180 := (String.append_assoc ..).symm

theorem discountId_of_taxFree (h : s.order.isTaxFree = true) (name : String) (rate : Decimal) :
    s.discountId name rate = "coupon-sku-discount-" ++ Text.cut name 180 := by
  simp only [discountId, discountItem, h, if_true]
  exact cut_coupon name

theorem discountId_of_taxed (h : s.order.isTaxFree = false) (name : String) (rate : Decimal) :
    s.discountId name rate = "coupon-sku-discount-" ++ (Money.rateText rate ++ "-" ++
      Text.cut name (179 - Text.size (Money.rateText rate))) := by
  have hsize : Text.size (Money.rateText rate ++ "-") = Text.size (Money.rateText rate) + 1 :=
    Text.size_append _ _
  have hrate := Money.size_rateText_le rate
  have hleft : 180 - (Text.size (Money.rateText rate) + 1) =
      179 - Text.size (Money.rateText rate) := by omega
  simp only [discountId, discountItem, h, Bool.false_eq_true, if_false]
  rw [String.append_assoc, String.append_assoc, cut_coupon, ← String.append_assoc,
    Text.cut_append (by omega), hsize, hleft]

theorem discountId_inj {name name' : String} {rate rate' : Decimal} :
    s.discountId name rate = s.discountId name' rate' ↔
      s.discountMark name rate = s.discountMark name' rate' := by
  unfold discountMark
  cases h : s.order.isTaxFree with
  | true =>
    rw [discountId_of_taxFree h, discountId_of_taxFree h, ← String.toList_inj,
      String.toList_append, String.toList_append, List.append_cancel_left_eq, String.toList_inj]
    simp
  | false =>
    have hends : (Money.rateText rate).toList ++
          '-' :: (Text.cut name (179 - Text.size (Money.rateText rate))).toList =
        (Money.rateText rate').toList ++
          '-' :: (Text.cut name' (179 - Text.size (Money.rateText rate'))).toList ↔
        rate.toRat = rate'.toRat ∧ _ :=
      Money.rateText_append_cons_inj (by decide) (by decide)
    rw [String.toList_inj] at hends
    rw [discountId_of_taxed h, discountId_of_taxed h, ← String.toList_inj]
    simpa using hends

theorem prefix_discountId (s : Sale) (name : String) (rate : Decimal) :
    "coupon-".toList <+: (s.discountId name rate).toList := by
  cases h : s.order.isTaxFree with
  | true =>
    rw [discountId_of_taxFree h, String.toList_append]
    exact ⟨_, rfl⟩
  | false =>
    rw [discountId_of_taxed h, String.toList_append]
    exact ⟨_, rfl⟩

theorem discountId_ne_adjustmentId (s : Sale) (name : String) (rate : Decimal) :
    s.discountId name rate ≠ adjustmentId := by
  intro h
  exact absurd (h ▸ prefix_discountId s name rate) (by decide)

/-! ## Shipping -/

/-- An id that is not cut keeps its ending. -/
theorem shippingId_of_short {name : String} (h : Text.size (name ++ "-Shipping") ≤ 200) :
    shippingId name = name ++ "-Shipping" := Text.cut_of_size_le h

/-- The id of one of several charges begins with its rate. -/
theorem toList_shippingId_shareName (s : Sale) (tax : CalculatedTax) :
    ∃ rest, (shippingId (s.shareName tax)).toList =
      (Money.rateText tax.rate).toList ++ '%' :: rest := by
  have hrate := Money.size_rateText_le tax.rate
  have hpercent : Text.size (Money.rateText tax.rate ++ "%") =
      Text.size (Money.rateText tax.rate) + 1 := Text.size_append _ _
  have hsplit : s.shareName tax ++ "-Shipping" =
      Money.rateText tax.rate ++ "%" ++ ("-" ++ s.shippingName ++ "-Shipping") := by
    have hmarks : "%-" = "%" ++ "-" := rfl
    rw [shareName, hmarks]
    simp only [String.append_assoc]
  rw [shippingId, hsplit, Text.cut_append (by omega), String.toList_append, String.toList_append,
    List.append_assoc]
  exact ⟨_, rfl⟩

theorem rate_eq_of_shippingId_eq {tax tax' : CalculatedTax}
    (h : shippingId (s.shareName tax) = shippingId (s.shareName tax')) :
    tax.rate.toRat = tax'.rate.toRat := by
  obtain ⟨rest, hrest⟩ := toList_shippingId_shareName s tax
  obtain ⟨rest', hrest'⟩ := toList_shippingId_shareName s tax'
  rw [← String.toList_inj, hrest, hrest'] at h
  exact ((Money.rateText_append_cons_inj (by decide) (by decide)).mp h).1

/-- No rate begins with a letter. -/
theorem shippingId_shareName_ne_discountId (s : Sale) (tax : CalculatedTax) (name : String)
    (rate : Decimal) : shippingId (s.shareName tax) ≠ s.discountId name rate := by
  intro h
  obtain ⟨after, hafter⟩ := toList_shippingId_shareName s tax
  obtain ⟨rest, hrest⟩ := prefix_discountId s name rate
  obtain ⟨first, digits, hdigits⟩ :=
    List.exists_cons_of_ne_nil (Money.rateText_ne_nil tax.rate)
  rw [← String.toList_inj, hafter, ← hrest, hdigits] at h
  have hfirst : first = 'c' := (List.cons.inj h).1
  have hmem : 'c' ∈ (Money.rateText tax.rate).toList := by
    rw [hdigits, hfirst]
    exact List.mem_cons_self
  exact absurd (Decimal.mem_text hmem) (by decide)

theorem shippingId_ne_adjustmentId (name : String) : shippingId name ≠ adjustmentId := by
  intro h
  -- A cut id has 200 characters, and one that is not cut has another last character.
  rcases Nat.lt_or_ge 200 (Text.size (name ++ "-Shipping")) with hlong | hshort
  · have hsize := congrArg Text.size h
    rw [shippingId, Text.size_cut, Nat.min_eq_left hlong.le] at hsize
    exact absurd hsize (by decide)
  · have hlast := congrArg (fun id ↦ id.toList.getLast?) h
    have hadjustment : adjustmentId.toList.getLast? = some 'm' := by decide
    rw [shippingId_of_short hshort] at hlast
    simp [List.getLast?_append, hadjustment] at hlast

/-! ## Products -/

/-- The id is one of those the payload makes itself, or looks like one. -/
def IsReserved (id : String) : Prop :=
  "coupon-".toList <+: id.toList ∨ "-Shipping".toList <:+ id.toList ∨ id = adjustmentId

instance : DecidablePred IsReserved := fun _ ↦ inferInstanceAs (Decidable (_ ∨ _ ∨ _))

theorem isReserved_shippingId_of_short {name : String}
    (h : Text.size (name ++ "-Shipping") ≤ 200) : IsReserved (shippingId name) := by
  right
  left
  rw [shippingId_of_short h, String.toList_append]
  exact List.suffix_append _ _

/-! ## All items -/

/-- The ids of the charged items of the order, the discounts and the shipping charges. -/
def builtIds (s : Sale) : List String :=
  s.chargedItems.map (·.id) ++ s.discountParts.map (fun part ↦ s.discountId part.name part.rate) ++
    s.shippingCharges.map fun charge ↦ shippingId charge.name

theorem builtItems_ids {built : List LineItem} (h : s.builtItems = .ok built) :
    (built.map (·.uniqueId)).Perm s.builtIds := by
  obtain ⟨products, discounts, shipping, hfrom⟩ := exists_builtFrom h
  have hproducts : products.map (·.uniqueId) = s.chargedItems.map (·.id) :=
    map_eq_of_forall₂ hfrom.products_from fun i _ item hitem ↦ hitem.id_eq
  have hdiscounts : discounts.map (·.uniqueId) =
      s.discountParts.map fun part ↦ s.discountId part.name part.rate := by
    apply map_eq_of_forall₂ hfrom.discounts_from
    intro part _ item hitem
    rw [hitem.item_eq]
    rfl
  have hshipping : shipping.map (·.uniqueId) =
      s.shippingCharges.map fun charge ↦ shippingId charge.name := by
    apply map_eq_of_forall₂ hfrom.shipping_from
    intro charge _ item hitem
    rw [hitem.item_eq]
    rfl
  have hperm := hfrom.perm.map (·.uniqueId)
  rwa [List.map_append, List.map_append, hproducts, hdiscounts, hshipping] at hperm

theorem ne_adjustmentId_of_mem_builtIds (hreserved : ∀ i ∈ s.chargedItems, ¬ IsReserved i.id) :
    adjustmentId ∉ s.builtIds := by
  intro hmem
  rcases List.mem_append.mp hmem with hgoods | hshipping
  · rcases List.mem_append.mp hgoods with hproduct | hdiscount
    · obtain ⟨i, hi, heq⟩ := List.mem_map.mp hproduct
      exact hreserved i hi (.inr (.inr heq))
    · obtain ⟨part, -, heq⟩ := List.mem_map.mp hdiscount
      exact discountId_ne_adjustmentId s _ _ heq
  · obtain ⟨charge, -, heq⟩ := List.mem_map.mp hshipping
    exact shippingId_ne_adjustmentId _ heq

/-- The adjustment never takes the id of another item. -/
theorem nodup_items_iff (h : s.items = .ok items)
    (hreserved : ∀ i ∈ s.chargedItems, ¬ IsReserved i.id) :
    (items.map (·.uniqueId)).Nodup ↔ s.builtIds.Nodup := by
  obtain ⟨built, extra, hbuilt, hextra, rfl⟩ := items_eq_ok.mp h
  have hperm := builtItems_ids hbuilt
  have hnone := ne_adjustmentId_of_mem_builtIds hreserved
  rcases adjustment_cases hextra with rfl | ⟨difference, -, rfl⟩
  · rw [List.append_nil, hperm.nodup_iff]
  · rw [List.map_append, (hperm.append_right _).nodup_iff, List.nodup_append]
    simp only [List.map_cons, List.map_nil, adjustmentItem, List.mem_singleton, forall_eq,
      List.nodup_singleton, true_and]
    exact and_iff_left fun id hid heq ↦ hnone (heq ▸ hid)

theorem nodup_discountIds_iff (s : Sale) (parts : List DiscountPart) :
    (parts.map fun part ↦ s.discountId part.name part.rate).Nodup ↔
      (parts.map fun part ↦ s.discountMark part.name part.rate).Nodup := by
  simp only [List.Nodup, List.pairwise_map, ne_eq, discountId_inj]

theorem map_name_shareCharges (s : Sale) (taxes : List CalculatedTax) :
    (s.shareCharges taxes).map (·.name) = taxes.map s.shareName :=
  map_shareCharges _ _ (fun _ _ ↦ rfl) taxes

theorem nodup_shippingIds (hrates : (s.order.shippingCosts.taxes.map (·.rate.toRat)).Nodup) :
    (s.shippingCharges.map fun charge ↦ shippingId charge.name).Nodup := by
  have hnames (charges : List ShippingCharge) :
      (charges.map fun charge ↦ shippingId charge.name) =
        (charges.map (·.name)).map shippingId := by
    rw [List.map_map]
    rfl
  unfold shippingCharges
  split
  · split
    · exact List.nodup_nil
    · exact List.nodup_singleton _
  · split
    · exact List.nodup_nil
    · rw [hnames, map_name_shareCharges, List.map_map, List.Nodup, List.pairwise_map]
      rw [List.Nodup, List.pairwise_map] at hrates
      exact hrates.imp fun hne heq ↦ hne (rate_eq_of_shippingId_eq heq)

/-- Only the single shipping charge can take the id of a discount. -/
theorem discountId_ne_shippingId (hone : s.order.shippingCosts.taxes.length ≠ 1)
    {charge : ShippingCharge} (hcharge : charge ∈ s.shippingCharges) (name : String)
    (rate : Decimal) : s.discountId name rate ≠ shippingId charge.name := by
  rw [shippingCharges, if_neg hone] at hcharge
  split at hcharge
  · exact absurd hcharge List.not_mem_nil
  · have hname := List.mem_map_of_mem (f := fun charge : ShippingCharge ↦ charge.name) hcharge
    rw [map_name_shareCharges] at hname
    obtain ⟨tax, -, heq⟩ := List.mem_map.mp hname
    rw [← heq]
    exact (shippingId_shareName_ne_discountId s tax name rate).symm

/-- **Ids of line items are distinct** for distinct and unreserved ids in the order and distinct
rates of the shipping taxes, exactly if no two discounts agree in rate and beginning of the name,
the single shipping charge is not named like a discount, and no id of the order is that of a
shipping charge whose id is cut. -/
theorem nodup_uniqueIds_iff (h : s.items = .ok items)
    (hids : (s.chargedItems.map (·.id)).Nodup)
    (hreserved : ∀ i ∈ s.chargedItems, ¬ IsReserved i.id)
    (hrates : (s.order.shippingCosts.taxes.map (·.rate.toRat)).Nodup) :
    (items.map (·.uniqueId)).Nodup ↔
      (s.discountParts.map fun part ↦ s.discountMark part.name part.rate).Nodup ∧
      (s.order.shippingCosts.taxes.length = 1 →
        ∀ charge ∈ s.shippingCharges, ∀ part ∈ s.discountParts,
          s.discountId part.name part.rate ≠ shippingId charge.name) ∧
      (∀ charge ∈ s.shippingCharges, 200 < Text.size (charge.name ++ "-Shipping") →
        ∀ i ∈ s.chargedItems, i.id ≠ shippingId charge.name) := by
  rw [nodup_items_iff h hreserved, builtIds, List.nodup_append, List.nodup_append,
    nodup_discountIds_iff]
  constructor
  · rintro ⟨⟨-, hmarks, -⟩, -, hcross⟩
    refine ⟨hmarks, ?_, ?_⟩
    · intro _ charge hcharge part hpart
      exact hcross _ (List.mem_append_right _ (List.mem_map_of_mem hpart)) _
        (List.mem_map_of_mem hcharge)
    · intro charge hcharge _ i hi
      exact hcross _ (List.mem_append_left _ (List.mem_map_of_mem hi)) _
        (List.mem_map_of_mem hcharge)
  · rintro ⟨hmarks, hsingle, hcut⟩
    refine ⟨⟨hids, hmarks, ?_⟩, nodup_shippingIds hrates, ?_⟩
    · intro id hid discount hdiscount heq
      obtain ⟨i, hi, rfl⟩ := List.mem_map.mp hid
      obtain ⟨part, -, rfl⟩ := List.mem_map.mp hdiscount
      exact hreserved i hi (heq ▸ .inl (prefix_discountId s _ _))
    · intro id hid shipping hshipping
      obtain ⟨charge, hcharge, rfl⟩ := List.mem_map.mp hshipping
      rcases List.mem_append.mp hid with hproduct | hdiscount
      · obtain ⟨i, hi, rfl⟩ := List.mem_map.mp hproduct
        -- An id that is not cut ends like no unreserved id.
        rcases Nat.lt_or_ge 200 (Text.size (charge.name ++ "-Shipping")) with hlong | hshort
        · exact hcut charge hcharge hlong i hi
        · exact fun heq ↦ hreserved i hi (heq ▸ isReserved_shippingId_of_short hshort)
      · obtain ⟨part, hpart, rfl⟩ := List.mem_map.mp hdiscount
        by_cases hone : s.order.shippingCosts.taxes.length = 1
        · exact hsingle hone charge hcharge part hpart
        · exact discountId_ne_shippingId hone hcharge _ _

/-- A promotion with the label of the summer sale. -/
def summer (id : String) (price : Decimal) (taxes : List CalculatedTax) : OrderItem :=
  { shopItem id .promotion price taxes with label := some "Summer" }

/-- Two summer promotions at different rates, and shipping costs with one tax. -/
def summerSale : Sale :=
  shopSale true
    (shopOrder
      [shopItem "Apron" .product (.ofUInt32 20) [],
        summer "p" (-.ofUInt32 2) [⟨0, .ofUInt32 19, -.ofUInt32 2⟩],
        summer "q" (-.ofUInt32 3) [⟨0, .ofUInt32 7, -.ofUInt32 3⟩]]
      (.ofUInt32 5) [⟨0, .ofUInt32 19, .ofUInt32 5⟩] (.ofUInt32 20))

theorem nodup_uniqueIds_iff_summerSale :
    ∃ items, summerSale.items = .ok items ∧ (items.map (·.uniqueId)).Nodup := by
  have hbuilt : summerSale.builtItems = .ok _ :=
    builtItems_of_sorted rfl rfl rfl (by decide +kernel)
  have hitems := items_eq_ok.mpr ⟨_, [], hbuilt, rfl, rfl⟩
  refine ⟨_, hitems, (nodup_uniqueIds_iff hitems ?_ ?_ ?_).mpr ⟨?_, ?_, ?_⟩⟩
  all_goals decide +kernel

/-! ## Equal ids -/

/-- The ids of the order are distinct and unreserved, and so are the rates of the shipping taxes
and those of each promotion. -/
structure HasSeparateSources (s : Sale) : Prop where
  ids : (s.order.items.map (·.id)).Nodup
  unreserved : ∀ i ∈ s.order.items, ¬ IsReserved i.id
  shipping_rates : (s.order.shippingCosts.taxes.map (·.rate.toRat)).Nodup
  promotion_rates : ∀ promotion ∈ s.promotions,
    ((s.promotionParts promotion).map (·.rate.toRat)).Nodup

/-- Two line items have the same id. -/
def RepeatsId (s : Sale) : Prop := ∃ items, s.items = .ok items ∧ ¬ (items.map (·.uniqueId)).Nodup

theorem repeatsId_of_builtIds (hitems : s.items = .ok items)
    (hreserved : ∀ i ∈ s.chargedItems, ¬ IsReserved i.id) (h : ¬ s.builtIds.Nodup) :
    s.RepeatsId := ⟨items, hitems, (nodup_items_iff hitems hreserved).not.mpr h⟩

/-- Two promotions with one label and one rate. -/
def twoSummers : Sale :=
  shopSale true
    (shopOrder
      [shopItem "Apron" .product (.ofUInt32 20) [],
        summer "p" (-.ofUInt32 2) [⟨0, .ofUInt32 19, -.ofUInt32 2⟩],
        summer "q" (-.ofUInt32 3) [⟨0, .ofUInt32 19, -.ofUInt32 3⟩]]
      0 [] (.ofUInt32 15))

theorem repeatsId_twoSummers : twoSummers.HasSeparateSources ∧ twoSummers.RepeatsId := by
  have hbuilt : twoSummers.builtItems = .ok _ :=
    builtItems_of_sorted rfl rfl rfl (by decide +kernel)
  have hitems := items_eq_ok.mpr ⟨_, [], hbuilt, rfl, rfl⟩
  exact ⟨by constructor <;> decide +kernel,
    repeatsId_of_builtIds hitems (by decide +kernel) (by decide +kernel)⟩

/-- A promotion with two rates in an order without taxes. -/
def taxFreeSummer : Sale :=
  shopSale true
    { shopOrder
        [shopItem "Apron" .product (.ofUInt32 20) [],
          summer "p" (-.ofUInt32 5)
            [⟨0, .ofUInt32 19, -.ofUInt32 2⟩, ⟨0, .ofUInt32 7, -.ofUInt32 3⟩]]
        0 [] (.ofUInt32 15) with
      taxStatus := .taxFree }

theorem repeatsId_taxFreeSummer : taxFreeSummer.HasSeparateSources ∧ taxFreeSummer.RepeatsId := by
  have hbuilt : taxFreeSummer.builtItems = .ok _ :=
    builtItems_of_sorted rfl rfl rfl (by decide +kernel)
  have hitems := items_eq_ok.mpr ⟨_, [], hbuilt, rfl, rfl⟩
  exact ⟨by constructor <;> decide +kernel,
    repeatsId_of_builtIds hitems (by decide +kernel) (by decide +kernel)⟩

/-- A promotion, and a shipping method that is named like its discount. -/
def couponShipping : Sale :=
  { shopSale true
      (shopOrder
        [{ shopItem "p" .promotion (-.ofUInt32 5) [⟨0, .ofUInt32 19, -.ofUInt32 5⟩] with
            label := some "Summer-Shipping" }]
        (.ofUInt32 5) [⟨0, .ofUInt32 19, .ofUInt32 5⟩] 0) with
    context := ⟨"channel", "card", some "coupon-sku-discount-19-Summer", none⟩ }

theorem repeatsId_couponShipping :
    couponShipping.HasSeparateSources ∧ couponShipping.RepeatsId := by
  have hbuilt : couponShipping.builtItems = .ok _ :=
    builtItems_of_sorted rfl rfl rfl (by decide +kernel)
  have hitems := items_eq_ok.mpr ⟨_, [], hbuilt, rfl, rfl⟩
  exact ⟨by constructor <;> decide +kernel,
    repeatsId_of_builtIds hitems (by decide +kernel) (by decide +kernel)⟩

/-- Separate sources are not enough: the two lines may be discounts with equal or without any
rates, or a discount and the shipping charge. -/
theorem separateSources_repeatsId :
    (twoSummers.HasSeparateSources ∧ twoSummers.RepeatsId) ∧
      (taxFreeSummer.HasSeparateSources ∧ taxFreeSummer.RepeatsId) ∧
      couponShipping.HasSeparateSources ∧ couponShipping.RepeatsId :=
  ⟨repeatsId_twoSummers, repeatsId_taxFreeSummer, repeatsId_couponShipping⟩

end Sale
end ShopPayments
