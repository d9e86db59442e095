import ShopPayments.Proofs.Payload.Items

/-!
# The items of an order in another order

Products and discounts are built one by one, so reordering the items of the order reorders what is
built from them, and the names of the goods decide where each of them ends up.  The label of a
chosen option is that of the first product with the same parent: it stays as it is where no second
product has that parent.  Hence the line items of a sale depend on the order of its items only
where names or parents repeat (`items_reordered`).
-/

namespace ShopPayments

/-- The parent of a product. -/
def OrderItem.productParent (i : OrderItem) : Option String :=
  if i.kind = .product then i.parentId else none

namespace Sale

variable {s : Sale} {other : List OrderItem} {products discounts built : List LineItem}

/-- The same sale with other items in its order. -/
def reordered (s : Sale) (items : List OrderItem) : Sale :=
  { s with order := { s.order with items } }

/-- No two products have the same parent, and no two goods have the same name. -/
structure HasDistinctGoods (s : Sale) : Prop where
  parents : (s.order.items.filterMap OrderItem.productParent).Nodup
  names : ∀ products discounts, s.productItems = .ok products → s.discountItems = .ok discounts →
    ((products ++ discounts).map (·.name)).Nodup

/-! ## Labels -/

theorem productParent_eq_some_iff (i : OrderItem) (parent : String) :
    (i.productParent == some parent) =
      (i.kind = .product && (some parent).isSome && i.parentId = some parent) := by
  unfold OrderItem.productParent
  by_cases hkind : i.kind = .product
  · simp [hkind, beq_eq_decide]
  · simp [hkind]

theorem find?_eq_of_perm {α : Type} {p : α → Bool} {l l' : List α} (hperm : l.Perm l')
    (hunique : l.countP p ≤ 1) : l.find? p = l'.find? p := by
  have hfilter := hperm.filter p
  rw [← List.head?_filter, ← List.head?_filter]
  rw [List.countP_eq_length_filter] at hunique
  rcases Nat.le_one_iff_eq_zero_or_eq_one.mp hunique with hnone | hone
  · rw [List.length_eq_zero_iff] at hnone
    rw [hnone] at hfilter ⊢
    rw [List.perm_nil.mp hfilter.symm]
  · obtain ⟨a, ha⟩ := List.length_eq_one_iff.mp hone
    rw [ha] at hfilter ⊢
    rw [List.perm_singleton.mp hfilter.symm]

theorem productLabel_reordered (hperm : s.order.items.Perm other)
    (hparents : (s.order.items.filterMap OrderItem.productParent).Nodup)
    (parentId : Option String) :
    (s.reordered other).productLabel parentId = s.productLabel parentId := by
  unfold productLabel
  dsimp only
  rw [find?_eq_of_perm hperm]
  · rfl
  · cases parentId with
    | none => simp
    | some parent =>
      have hcount := List.nodup_iff_count_le_one.mp hparents parent
      rw [List.count_filterMap] at hcount
      simpa only [productParent_eq_some_iff] using hcount

theorem productItem_reordered (hperm : s.order.items.Perm other)
    (hparents : (s.order.items.filterMap OrderItem.productParent).Nodup) (i : OrderItem) :
    (s.reordered other).productItem i = s.productItem i := by
  have hlabel : (s.reordered other).labelOf i = s.labelOf i := by
    rw [labelOf, labelOf, productLabel_reordered hperm hparents]
  unfold productItem
  rw [hlabel]
  rfl

/-! ## Goods -/

theorem exists_productItems_reordered (hperm : s.order.items.Perm other)
    (hparents : (s.order.items.filterMap OrderItem.productParent).Nodup)
    (h : s.productItems = .ok products) :
    ∃ products', (s.reordered other).productItems = .ok products' ∧ products.Perm products' := by
  have hbuild : (s.reordered other).productItem = s.productItem :=
    funext (productItem_reordered hperm hparents)
  rw [productItems, hbuild]
  exact exists_mapM_of_perm (hperm.filter isCharged) h

theorem exists_discountItems_reordered (hperm : s.order.items.Perm other)
    (h : s.discountItems = .ok discounts) :
    ∃ discounts', (s.reordered other).discountItems = .ok discounts' ∧
      discounts.Perm discounts' := by
  simp only [discountItems, bind_eq_ok, pure_eq_ok] at h ⊢
  obtain ⟨groups, hgroups, rfl⟩ := h
  obtain ⟨groups', hgroups', hsame⟩ :=
    exists_mapM_of_perm (hperm.filter (·.kind = .promotion)) hgroups
  exact ⟨groups'.flatten, ⟨groups', hgroups', rfl⟩, hsame.flatten⟩

theorem reordered_reordered (s : Sale) (other : List OrderItem) :
    (s.reordered other).reordered s.order.items = s := rfl

theorem HasDistinctGoods.reordered (h : s.HasDistinctGoods) (hperm : s.order.items.Perm other) :
    (s.reordered other).HasDistinctGoods where
  parents := (hperm.filterMap _).nodup_iff.mp h.parents
  names products' discounts' hproducts' hdiscounts' := by
    have hparents' : (other.filterMap OrderItem.productParent).Nodup :=
      (hperm.filterMap _).nodup_iff.mp h.parents
    obtain ⟨products, hproducts, hproductsPerm⟩ :=
      exists_productItems_reordered (s := s.reordered other) hperm.symm hparents' hproducts'
    obtain ⟨discounts, hdiscounts, hdiscountsPerm⟩ :=
      exists_discountItems_reordered (s := s.reordered other) hperm.symm hdiscounts'
    rw [reordered_reordered] at hproducts hdiscounts
    have hgoods := (hproductsPerm.append hdiscountsPerm).map (·.name)
    exact hgoods.nodup_iff.mpr (h.names products discounts hproducts hdiscounts)

theorem sortByName_eq_of_perm {goods goods' : List LineItem} (hperm : goods.Perm goods')
    (hnames : (goods.map (·.name)).Nodup) : sortByName goods = sortByName goods' := by
  refine Sorting.mergeSort_eq_of_perm (Sorting.textLe_trans _) (Sorting.textLe_total _) hperm ?_
  intro a ha b hb hab hba
  exact List.inj_on_of_nodup_map hnames ha hb
    (String.le_antisymm (of_decide_eq_true hab) (of_decide_eq_true hba))

/-! ## All items -/

theorem builtItems_reordered (h : s.HasDistinctGoods) (hperm : s.order.items.Perm other)
    (hbuilt : s.builtItems = .ok built) : (s.reordered other).builtItems = .ok built := by
  simp only [builtItems, bind_eq_ok, pure_eq_ok] at hbuilt
  obtain ⟨products, hproducts, discounts, hdiscounts, shipping, hshipping, rfl⟩ := hbuilt
  obtain ⟨products', hproducts', hproductsPerm⟩ :=
    exists_productItems_reordered hperm h.parents hproducts
  obtain ⟨discounts', hdiscounts', hdiscountsPerm⟩ :=
    exists_discountItems_reordered hperm hdiscounts
  have hshipping' : (s.reordered other).shippingItems = .ok shipping := hshipping
  rw [builtItems, hproducts', hdiscounts', hshipping', ok_bind, ok_bind, ok_bind, pure_eq,
    sortByName_eq_of_perm (hproductsPerm.append hdiscountsPerm)
      (h.names products discounts hproducts hdiscounts)]

theorem builtItems_reordered_iff (h : s.HasDistinctGoods) (hperm : s.order.items.Perm other) :
    s.builtItems = .ok built ↔ (s.reordered other).builtItems = .ok built :=
  ⟨builtItems_reordered h hperm, builtItems_reordered (h.reordered hperm) hperm.symm⟩

theorem items_eq_totalMismatch {itemTotal orderTotal : Decimal} :
    s.items = .error (.totalMismatch itemTotal orderTotal) ↔
      ∃ built, s.builtItems = .ok built ∧
        s.adjustment built = .error (.totalMismatch itemTotal orderTotal) := by
  simp only [Sale.items, bind_eq_error, builtItems_ne_totalMismatch, pure_eq, reduceCtorEq,
    and_false, exists_false, or_false, false_or]

/-- **The line items do not depend on the order of the items.**  Where no two products have the same
parent and no two goods the same name, a sale and the one with its items in another order have the
same line items, or both miss the total by the same amounts, or neither has line items. -/
theorem items_reordered (h : s.HasDistinctGoods) (hperm : s.order.items.Perm other) :
    (∀ items, s.items = .ok items ↔ (s.reordered other).items = .ok items) ∧
      ∀ itemTotal orderTotal,
        s.items = .error (.totalMismatch itemTotal orderTotal) ↔
          (s.reordered other).items = .error (.totalMismatch itemTotal orderTotal) := by
  constructor
  · intro items
    simp only [items_eq_ok, builtItems_reordered_iff h hperm]
    rfl
  · intro itemTotal orderTotal
    simp only [items_eq_totalMismatch, builtItems_reordered_iff h hperm]
    rfl

/-- A cap with a crest, and a voucher. -/
def capWithCrest : Sale :=
  shopSale true
    (shopOrder
      [{ shopItem "Cap" .product (.ofUInt32 20) [] with parentId := some "custom-cap" },
        { shopItem "Crest" .customOption (.ofUInt32 5) [] with parentId := some "custom-cap" },
        { shopItem "Voucher" .promotion (-.ofUInt32 5) [⟨0, .ofUInt32 19, -.ofUInt32 5⟩] with
          definition := some .absolute }]
      0 [] (.ofUInt32 20))

theorem hasDistinctGoods_capWithCrest : capWithCrest.HasDistinctGoods where
  parents := by decide
  names products discounts hproducts hdiscounts := by
    have hproducts' : capWithCrest.productItems = .ok [_, _] := rfl
    have hdiscounts' : capWithCrest.discountItems = .ok [_] := rfl
    obtain rfl := Except.ok.inj (hproducts.symm.trans hproducts')
    obtain rfl := Except.ok.inj (hdiscounts.symm.trans hdiscounts')
    decide +kernel

theorem items_reordered_capWithCrest :
    ∃ items, capWithCrest.items = .ok items ∧
      (capWithCrest.reordered capWithCrest.order.items.reverse).items = .ok items := by
  have hproducts : capWithCrest.productItems = .ok [_, _] := rfl
  have hdiscounts : capWithCrest.discountItems = .ok [_] := rfl
  have hbuilt : capWithCrest.builtItems = .ok _ :=
    builtItems_of_sorted hproducts hdiscounts rfl (by decide +kernel)
  have hitems : capWithCrest.items = .ok _ := items_eq_ok.mpr ⟨_, [], hbuilt, rfl, rfl⟩
  have hperm := (List.reverse_perm capWithCrest.order.items).symm
  exact ⟨_, hitems, ((items_reordered hasDistinctGoods_capWithCrest hperm).1 _).mp hitems⟩

end Sale
end ShopPayments
