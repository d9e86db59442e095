import ShopPayments.Proofs.ByteOrder
import ShopPayments.Proofs.Payload.ShippingPart

/-!
# No line item is lost

Each item of the order that stands for itself has one line item, and each promotion a group of
them, with one for each of its rates.  Sorting by name loses none of these and doubles none, and
only shipping and at most one adjustment come behind them (`exists_isMadeOf`).  Whether there are
taxes at all is decided by the order: without taxes no line item has one.
-/

namespace ShopPayments
namespace Sale

variable {s : Sale} {i promotion : OrderItem} {item : LineItem} {group items : List LineItem}
  {part : DiscountPart}

/-! ## Sorted goods -/

/-- The same line items in the order of the bytes of their names, those of one name in their former
order. -/
structure IsSortingOf (goods sorted : List LineItem) : Prop where
  perm : sorted.Perm goods
  ordered : sorted.Pairwise fun a b ↦ Text.bytes a.name ≤ Text.bytes b.name
  stable : ∀ name, sorted.filter (·.name = name) = goods.filter (·.name = name)

theorem isSortingOf_sortByName (goods : List LineItem) : IsSortingOf goods (sortByName goods) where
  perm := sortByName_perm goods
  ordered := (pairwise_sortByName goods).imp Text.bytes_le_iff.mpr
  stable := filter_sortByName goods

/-! ## Products -/

/-- The line item stands for the item of the order, with a tax for each of its taxes. -/
structure IsLineOf (s : Sale) (i : OrderItem) (item : LineItem) : Prop where
  id_eq : item.uniqueId = i.id
  quantity_eq : item.quantity = i.quantity
  type_eq : item.type = if 0 ≤ i.total.getD 0 then .product else .discount
  rates_eq : item.taxes.map (·.rate) = if s.order.isTaxFree then [] else i.price.taxes.map (·.rate)

theorem isLineOf_of_productItem (h : s.productItem i = .ok item) : s.IsLineOf i item := by
  simp only [productItem_eq, bind_eq_ok, ensureValid_eq_ok] at h
  obtain ⟨amount, -, attributes, -, -, rfl⟩ := h
  refine ⟨rfl, rfl, rfl, ?_⟩
  change (s.productTaxes i).map (·.rate) = _
  unfold productTaxes
  split
  · rfl
  · rw [List.map_map]
    rfl

/-! ## Promotions -/

/-- The line item is a discount of the promotion at the rate. -/
structure IsDiscountAt (s : Sale) (promotion : OrderItem) (rate : Decimal) (item : LineItem) :
    Prop where
  item_eq : item = s.discountItem (promotion.label.getD "Unnamed") item.amount rate
  type_eq : item.type = .discount
  rates_eq : item.taxes.map (·.rate) = if s.order.isTaxFree then [] else [rate]

/-- One discount for each tax of the promotion, else one for each of its tax rules, else a single
one at the standard rate. -/
structure IsGroupOf (s : Sale) (promotion : OrderItem) (group : List LineItem) : Prop where
  by_taxes : s.order.isNet = true ∨ promotion.definition = some .absolute →
    List.Forall₂ (fun tax item ↦ s.IsDiscountAt promotion tax.rate item) promotion.price.taxes group
  by_rules : ¬ (s.order.isNet = true ∨ promotion.definition = some .absolute) →
    promotion.price.rules ≠ [] →
    List.Forall₂ (fun rule item ↦ s.IsDiscountAt promotion rule.rate item) promotion.price.rules
      group
  whole : ¬ (s.order.isNet = true ∨ promotion.definition = some .absolute) →
    promotion.price.rules = [] →
    ∃ item, group = [item] ∧ s.IsDiscountAt promotion s.settings.defaultTaxRate item

theorem IsDiscountOf.isDiscountAt (h : s.IsDiscountOf part item)
    (hname : part.name = promotion.label.getD "Unnamed") :
    s.IsDiscountAt promotion part.rate item := by
  refine ⟨?_, ?_, ?_⟩
  · rw [← hname]
    exact h.item_eq
  · rw [h.item_eq]
    rfl
  · rw [h.item_eq]
    change (if s.order.isTaxFree then [] else _ : List LineItemTax).map (·.rate) = _
    split <;> rfl

theorem splitsByTaxes_iff :
    s.splitsByTaxes promotion = true ↔
      s.order.isNet = true ∨ promotion.definition = some .absolute := by
  simp [splitsByTaxes]

theorem isGroupOf_of_promotionItems (h : s.promotionItems promotion = .ok group) :
    s.IsGroupOf promotion group := by
  simp only [promotionItems_eq, mapM_eq_ok, partItem_eq_ok, promotionParts] at h
  constructor
  · intro htaxes
    rw [if_pos (splitsByTaxes_iff.mpr htaxes), List.forall₂_map_left_iff] at h
    exact h.imp fun _ _ hpart ↦ hpart.isDiscountAt rfl
  · intro htaxes hrules
    rw [if_neg (splitsByTaxes_iff.not.mpr htaxes), if_neg (by simpa using hrules),
      List.forall₂_map_left_iff] at h
    exact h.imp fun _ _ hpart ↦ hpart.isDiscountAt rfl
  · intro htaxes hrules
    rw [if_neg (splitsByTaxes_iff.not.mpr htaxes), if_pos (by simpa using hrules)] at h
    obtain ⟨item, rest, hitem, hrest, rfl⟩ := List.forall₂_cons_left_iff.mp h
    rw [List.forall₂_nil_left_iff.mp hrest]
    exact ⟨item, rfl, hitem.isDiscountAt rfl⟩

/-! ## All items -/

theorem taxes_eq_nil_of_builtItems (hfree : s.order.isTaxFree = true)
    (h : s.builtItems = .ok items) : ∀ item ∈ items, item.taxes = [] := by
  simp only [builtItems, bind_eq_ok, pure_eq_ok] at h
  obtain ⟨products, hproducts, discounts, hdiscounts, shipping, hshipping, rfl⟩ := h
  intro item hitem
  rcases List.mem_append.mp hitem with hgood | hshipped
  · rcases List.mem_append.mp ((sortByName_perm _).mem_iff.mp hgood) with hproduct | hdiscount
    · obtain ⟨i, -, hi⟩ := exists_of_forall₂_of_mem (mapM_eq_ok.mp hproducts) hproduct
      have hrates := (isLineOf_of_productItem hi).rates_eq
      rw [if_pos hfree] at hrates
      exact List.map_eq_nil_iff.mp hrates
    · obtain ⟨part, -, hpart⟩ :=
        exists_of_forall₂_of_mem (forall₂_discountItems hdiscounts) hdiscount
      rw [hpart.item_eq]
      exact if_pos hfree
  · obtain ⟨charge, -, hcharge⟩ :=
      exists_of_forall₂_of_mem (forall₂_shippingItems hshipping) hshipped
    rw [hcharge.item_eq]
    exact if_pos hfree

theorem taxes_eq_nil_of_items (hfree : s.order.isTaxFree = true) (h : s.items = .ok items) :
    ∀ item ∈ items, item.taxes = [] :=
  forall_of_items (P := fun item ↦ item.taxes = []) h
    (fun _ hbuilt ↦ taxes_eq_nil_of_builtItems hfree hbuilt) fun _ _ ↦ rfl

/-- The line items are made of a line item for each product and a group for each promotion, sorted
together, and of the shipping and an adjustment behind them. -/
structure IsMadeOf (s : Sale) (products : List LineItem) (groups : List (List LineItem))
    (shipping extra items : List LineItem) : Prop where
  arranged : ∃ sorted, IsSortingOf (products ++ groups.flatten) sorted ∧
    items = sorted ++ shipping ++ extra
  products_from : List.Forall₂ s.IsLineOf s.chargedItems products
  groups_from : List.Forall₂ s.IsGroupOf s.promotions groups
  shipping_eq : s.shippingItems = .ok shipping
  shipping_from : s.IsShippingPart shipping
  extra_from : extra = [] ∨ ∃ difference, extra = [s.adjustmentItem difference]
  untaxed : s.order.isTaxFree = true → ∀ item ∈ items, item.taxes = []

/-- **No line item is lost, doubled or taxed against the order.**  Whenever there are line items,
they are made of one for each product and one for each rate of each promotion, stably sorted by
name, then shipping and at most one adjustment, and an order without taxes has line items without
taxes. -/
theorem exists_isMadeOf (h : s.items = .ok items) :
    ∃ products groups shipping extra, s.IsMadeOf products groups shipping extra items := by
  have huntaxed (hfree : s.order.isTaxFree = true) := taxes_eq_nil_of_items hfree h
  obtain ⟨built, extra, hbuilt, hextra, rfl⟩ := items_eq_ok.mp h
  simp only [builtItems, discountItems, bind_eq_ok, pure_eq_ok, mapM_eq_ok] at hbuilt
  obtain ⟨products, hproducts, -, ⟨groups, hgroups, rfl⟩, shipping, hshipping, rfl⟩ := hbuilt
  refine ⟨products, groups, shipping, extra, ⟨_, isSortingOf_sortByName _, rfl⟩, ?_, ?_, hshipping,
    isShippingPart_of_shippingItems hshipping, ?_, huntaxed⟩
  · exact (mapM_eq_ok.mp hproducts).imp fun _ _ ↦ isLineOf_of_productItem
  · exact hgroups.imp fun _ _ ↦ isGroupOf_of_promotionItems
  · rcases adjustment_cases hextra with hnone | ⟨difference, -, hone⟩
    · exact .inl hnone
    · exact .inr ⟨_, hone⟩

/-- A cap in a set, a voucher, shipping costs under two taxes, and a coin that is missing. -/
def capInSet : Sale :=
  shopSale false
    (shopOrder
      [shopItem "Set" .custom (.ofUInt32 20) [],
        shopItem "Cap" .product (.ofUInt32 20) [⟨.ofUInt32 3, .ofUInt32 19, .ofUInt32 20⟩],
        { shopItem "Voucher" .promotion (-.ofUInt32 5) [] with
          definition := none }]
      (.ofUInt32 6)
      [⟨.ofUInt32 1, .ofUInt32 19, .ofUInt32 4⟩, ⟨.ofUInt32 1, .ofUInt32 7, .ofUInt32 2⟩]
      (.ofUInt32 22))

theorem exists_isMadeOf_capInSet :
    ∃ items, capInSet.items = .ok items ∧ items.length = 5 ∧
      ∃ products groups shipping extra,
        capInSet.IsMadeOf products groups shipping extra items := by
  have hproducts : capInSet.productItems = .ok [_] := rfl
  have hdiscounts : capInSet.discountItems = .ok [_] := rfl
  have hshipping : capInSet.shippingItems = .ok [_, _] := rfl
  have hbuilt : capInSet.builtItems = .ok _ :=
    builtItems_of_sorted hproducts hdiscounts hshipping (by decide +kernel)
  have hitems : capInSet.items = .ok _ := items_eq_ok.mpr ⟨_, [_], hbuilt, rfl, rfl⟩
  exact ⟨_, hitems, rfl, exists_isMadeOf hitems⟩

end Sale
end ShopPayments
