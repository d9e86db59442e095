import ShopPayments.Payload.Sale
import ShopPayments.Proofs.Decimal.Text
import ShopPayments.Proofs.Money
import ShopPayments.Proofs.Outcome

/-!
# What a product becomes

A charge has at most two places, and where taxes are not added on top it is the rounded price.
Titled taxes are there for every title and every rate, and they are valid, as are the shown
options.  The line item of a product is valid down to its taxes and options (`IsProductOf`).
-/

namespace ShopPayments

theorem Dictionary.mem_of_mem_foldl {α : Type} {entries : List (String × α)} {d : Dictionary α}
    {e : String × α} (h : e ∈ (entries.foldl (fun d e ↦ d.insert e.1 e.2) d).entries) :
    e ∈ d.entries ∨ e ∈ entries := by
  induction entries generalizing d with
  | nil => exact .inl h
  | cons first rest ih =>
    rcases ih h with hinsert | hrest
    · rcases mem_insertEntry hinsert with rfl | hold
      · exact .inr List.mem_cons_self
      · exact .inl hold
    · exact .inr (List.mem_cons_of_mem first hrest)

theorem Dictionary.mem_of_mem_ofList {α : Type} {entries : List (String × α)} {e : String × α}
    (h : e ∈ (ofList entries).entries) : e ∈ entries :=
  (mem_of_mem_foldl h).resolve_left List.not_mem_nil

namespace Sale

variable {s : Sale} {i : OrderItem} {item : LineItem} {price amount : Decimal}

/-! ## Charges -/

theorem chargeFor_of_not_net (h : s.order.isNet = false) (tax : Except Overflow Decimal) :
    s.chargeFor price tax = .ok (Money.round price) := by
  simp [chargeFor, h, pure_eq]

theorem scale_chargeFor_le {tax : Except Overflow Decimal}
    (h : s.chargeFor price tax = .ok amount) : amount.scale ≤ Money.places := by
  unfold chargeFor at h
  dsimp only at h
  split at h
  · simp only [bind_eq_ok, pure_eq_ok] at h
    obtain ⟨-, -, full, -, rfl⟩ := h
    exact Money.round_scale_le full
  · rw [← pure_eq_ok.mp h]
    exact Money.round_scale_le price

theorem failsOnly_chargeFor (s : Sale) (price : Decimal) (tax : Except Overflow Decimal) :
    FailsOnly Failure.IsOverflow (s.chargeFor price tax) := by
  unfold chargeFor
  dsimp only
  split
  · apply (failsOnly_liftOverflow tax).bind
    intro tax _
    apply (failsOnly_liftOverflow _).bind
    intro full _
    exact .pure _
  · exact .pure _

/-! ## Taxes and options -/

/-- A tax under a title made of a text and the rate. -/
def titledTax (title : String) (tax : CalculatedTax) : LineItemTax :=
  ⟨tax.rate, Text.cut (title ++ " : " ++ Money.rateText tax.rate) 40⟩

theorem isValid_titledTax (title : String) (tax : CalculatedTax) :
    isValid (titledTax title tax) = true := by
  have hblank : Text.size " : " = 3 := by decide
  rw [LineItemTax.isValid_iff_size, titledTax, Text.size_cut, Text.size_append, Text.size_append]
  omega

theorem titledTaxes_eq (title : String) (taxes : List CalculatedTax) :
    titledTaxes title taxes = .ok (taxes.map (titledTax title)) := by
  rw [titledTaxes, mapM_eq_ok, List.forall₂_map_right_iff, List.forall₂_same]
  exact fun tax _ ↦ ensureValid_of_isValid (isValid_titledTax title tax)

theorem isValid_optionAttributes {options : List ProductOption}
    {attributes : Dictionary LineItemAttribute} (h : optionAttributes options = .ok attributes) :
    ∀ e ∈ attributes.entries, isValid e.2 = true := by
  simp only [optionAttributes, bind_eq_ok, pure_eq_ok, mapM_eq_ok] at h
  obtain ⟨shown, hshown, rfl⟩ := h
  intro e he
  obtain ⟨o, -, ho⟩ := exists_of_forall₂_of_mem hshown (Dictionary.mem_of_mem_ofList he)
  simp only [optionAttribute, bind_eq_ok, pure_eq_ok, ensureValid_eq_ok] at ho
  obtain ⟨a, ⟨hvalid, rfl⟩, rfl⟩ := ho
  exact hvalid

theorem failsOnly_optionAttributes (options : List ProductOption) :
    FailsOnly Failure.OfItem (optionAttributes options) := by
  apply FailsOnly.bind
  · apply FailsOnly.mapM
    intro o _
    apply (failsOnly_ensureValid _).bind
    intro shown _
    exact .pure _
  · intro entries _
    exact .pure _

/-! ## Products -/

/-- The taxes of the line item of a product. -/
def productTaxes (s : Sale) (i : OrderItem) : List LineItemTax :=
  if s.order.isTaxFree then [] else i.price.taxes.map (titledTax s.labels.taxes)

/-- The line item of a product for an amount, with its options. -/
def productLine (s : Sale) (i : OrderItem) (amount : Decimal)
    (attributes : Dictionary LineItemAttribute) : LineItem where
  amount
  attributes
  name := Text.cut (s.labelOf i) 150
  quantity := i.quantity
  shippingRequired := none
  sku := some (Text.cut (skuOf i) 200)
  taxes := s.productTaxes i
  type := if 0 ≤ i.total.getD 0 then .product else .discount
  uniqueId := i.id

theorem productItem_eq (s : Sale) (i : OrderItem) :
    s.productItem i =
      (s.chargeFor (i.total.getD 0) i.price.taxAmount >>= fun amount ↦
        optionAttributes i.product.options >>= fun attributes ↦
          ensureValid (s.productLine i amount attributes)) := by
  unfold productItem productLine productTaxes
  dsimp only
  congr 1
  funext amount
  split
  · rfl
  · rw [titledTaxes_eq]
    rfl

/-- The line item charges the item of the order, under its id, and is valid in all its parts. -/
structure IsProductOf (s : Sale) (i : OrderItem) (item : LineItem) : Prop where
  charged : s.chargeFor (i.total.getD 0) i.price.taxAmount = .ok item.amount
  id_eq : item.uniqueId = i.id
  valid : isValid item = true
  valid_taxes : ∀ tax ∈ item.taxes, isValid tax = true
  valid_attributes : ∀ e ∈ item.attributes.entries, isValid e.2 = true

theorem isProductOf_of_productItem (h : s.productItem i = .ok item) : s.IsProductOf i item := by
  simp only [productItem_eq, bind_eq_ok, ensureValid_eq_ok] at h
  obtain ⟨amount, hamount, attributes, hattributes, hvalid, rfl⟩ := h
  refine ⟨hamount, rfl, hvalid, ?_, isValid_optionAttributes hattributes⟩
  intro tax htax
  change tax ∈ s.productTaxes i at htax
  unfold productTaxes at htax
  split at htax
  · exact absurd htax List.not_mem_nil
  · obtain ⟨calculated, -, rfl⟩ := List.mem_map.mp htax
    exact isValid_titledTax _ calculated

/-- The items of the order that stand for themselves in the payload. -/
def chargedItems (s : Sale) : List OrderItem := s.order.items.filter isCharged

theorem forall₂_productItems {items : List LineItem} (h : s.productItems = .ok items) :
    List.Forall₂ s.IsProductOf s.chargedItems items :=
  (mapM_eq_ok.mp h).imp fun _ _ ↦ isProductOf_of_productItem

theorem failsOnly_productItems (s : Sale) : FailsOnly Failure.OfItem s.productItems := by
  apply FailsOnly.mapM
  intro i _
  rw [productItem_eq]
  apply ((failsOnly_chargeFor s _ _).imp fun _ ↦ Failure.IsOverflow.ofItem).bind
  intro amount _
  apply (failsOnly_optionAttributes _).bind
  intro attributes _
  exact failsOnly_ensureValid _

end Sale
end ShopPayments
