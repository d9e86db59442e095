import ShopPayments.Payload.Discounts
import ShopPayments.Proofs.Payload.Sale

/-!
# What a promotion becomes

Each promotion comes apart into an amount for each of its rates, and each part gives one discount
(`IsDiscountOf`).  Amounts have at most two places.  A discount is never checked, but cutting its
texts is enough: it is valid for every name and every rate, and so is its tax.
-/

namespace ShopPayments
namespace Sale

variable {s : Sale} {item : LineItem}

/-- The amount of a promotion at one rate. -/
structure DiscountPart where
  name : String
  amount : Except Failure Decimal
  rate : Decimal

/-- The parts of a promotion: by its taxes, else by its rules, else as a whole. -/
def promotionParts (s : Sale) (promotion : OrderItem) : List DiscountPart :=
  let name := promotion.label.getD "Unnamed"
  let price := promotion.price
  if s.splitsByTaxes promotion then
    price.taxes.map fun tax ↦ ⟨name, s.chargeFor tax.price (.ok tax.tax), tax.rate⟩
  else if price.rules.isEmpty then
    [⟨name, .ok (Money.round price.total), s.settings.defaultTaxRate⟩]
  else price.rules.map fun rule ↦ ⟨name, ruleShare price.total rule.percentage, rule.rate⟩

/-- The promotions among the items of the order. -/
def promotions (s : Sale) : List OrderItem := s.order.items.filter (·.kind = .promotion)

/-- The parts of all promotions. -/
def discountParts (s : Sale) : List DiscountPart := s.promotions.flatMap s.promotionParts

/-- The line item of a part, if its amount is there. -/
def partItem (s : Sale) (part : DiscountPart) : Except Failure LineItem := do
  let amount ← part.amount
  pure (s.discountItem part.name amount part.rate)

theorem promotionItems_eq (s : Sale) (promotion : OrderItem) :
    s.promotionItems promotion = (s.promotionParts promotion).mapM s.partItem := by
  unfold promotionItems promotionParts
  dsimp only
  split
  · rw [List.mapM_map]
    rfl
  · split
    · rfl
    · rw [List.mapM_map]
      rfl

/-- The line item is the discount of the part. -/
structure IsDiscountOf (s : Sale) (part : DiscountPart) (item : LineItem) : Prop where
  charged : part.amount = .ok item.amount
  item_eq : item = s.discountItem part.name item.amount part.rate

theorem partItem_eq_ok {part : DiscountPart} :
    s.partItem part = .ok item ↔ s.IsDiscountOf part item := by
  have hread (amount : Decimal) : (s.discountItem part.name amount part.rate).amount = amount := rfl
  rw [partItem, bind_pure_eq_ok hread]
  exact ⟨fun h ↦ ⟨h.1, h.2⟩, fun h ↦ ⟨h.charged, h.item_eq⟩⟩

theorem forall₂_discountItems {items : List LineItem} (h : s.discountItems = .ok items) :
    List.Forall₂ s.IsDiscountOf s.discountParts items := by
  simp only [discountItems, bind_eq_ok, pure_eq_ok, mapM_eq_ok, promotionItems_eq,
    partItem_eq_ok] at h
  obtain ⟨groups, hgroups, rfl⟩ := h
  rw [discountParts, List.flatMap_def]
  exact List.rel_flatten (List.forall₂_map_left_iff.mpr hgroups)

/-! ## Amounts -/

theorem scale_ruleShare_le {total percentage amount : Decimal}
    (h : ruleShare total percentage = .ok amount) : amount.scale ≤ Money.places := by
  simp only [ruleShare, bind_eq_ok, pure_eq_ok] at h
  obtain ⟨scaled, -, rfl⟩ := h
  exact Money.round_scale_le _

theorem scale_le_of_mem_discountParts {part : DiscountPart} {amount : Decimal}
    (hpart : part ∈ s.discountParts) (h : part.amount = .ok amount) :
    amount.scale ≤ Money.places := by
  obtain ⟨promotion, -, hmem⟩ := List.mem_flatMap.mp hpart
  unfold promotionParts at hmem
  dsimp only at hmem
  split at hmem
  · obtain ⟨tax, -, rfl⟩ := List.mem_map.mp hmem
    exact scale_chargeFor_le h
  · split at hmem
    · rw [List.mem_singleton.mp hmem] at h
      rw [← Except.ok.inj h]
      exact Money.round_scale_le _
    · obtain ⟨rule, -, rfl⟩ := List.mem_map.mp hmem
      exact scale_ruleShare_le h

theorem failsOnly_ruleShare (total percentage : Decimal) :
    FailsOnly Failure.IsOverflow (ruleShare total percentage) := by
  apply (failsOnly_liftOverflow _).bind
  intro scaled _
  exact .pure _

theorem failsOnly_discountItems (s : Sale) : FailsOnly Failure.IsOverflow s.discountItems := by
  apply FailsOnly.bind
  · apply FailsOnly.mapM
    intro promotion _
    unfold promotionItems
    dsimp only
    split
    · apply FailsOnly.mapM
      intro tax _
      apply (failsOnly_chargeFor s _ _).bind
      intro amount _
      exact .pure _
    · split
      · exact .ok _
      · apply FailsOnly.mapM
        intro rule _
        apply (failsOnly_ruleShare _ _).bind
        intro amount _
        exact .pure _
  · intro groups _
    exact .pure _

/-! ## Validity -/

theorem isValid_discountItem (s : Sale) (name : String) (amount rate : Decimal) :
    isValid (s.discountItem name amount rate) = true := by
  rw [LineItem.isValid_iff_size]
  refine ⟨⟨Text.size_cut_pos (by decide) ?_, Text.size_cut_le _ _⟩, ?_,
    Text.size_cut_pos (by decide) ?_, Text.size_cut_le _ _⟩
  · have htitle : 0 < Text.size "DISCOUNT: " := by decide
    split <;> simp only [Text.size_append] <;> omega
  · intro sku hsku
    rw [← Option.mem_some_iff.mp hsku]
    exact Text.size_cut_le _ _
  · have hcoupon : 0 < Text.size "coupon-" := by decide
    rw [Text.size_append]
    omega

theorem isValid_of_mem_taxes_discountItem {name : String} {amount rate : Decimal}
    {tax : LineItemTax} (h : tax ∈ (s.discountItem name amount rate).taxes) :
    isValid tax = true := by
  change tax ∈ if s.order.isTaxFree then [] else _ at h
  split at h
  · exact absurd h List.not_mem_nil
  · have htitle : 2 ≤ Text.size "Discount Tax: " := by decide
    rw [List.mem_singleton.mp h, LineItemTax.isValid_iff_size, Text.size_cut, Text.size_append]
    omega

end Sale
end ShopPayments
