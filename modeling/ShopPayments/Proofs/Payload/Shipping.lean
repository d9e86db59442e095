import ShopPayments.Payload.Shipping
import ShopPayments.Proofs.Payload.Sale

/-!
# What shipping costs become

Shipping costs come apart into one charge, or into one for each of several taxes, and each charge
gives one line item.  The texts of such an item are cut to lengths that the payment service takes,
so no charge is ever dropped: only an amount without room keeps shipping costs from their items.
The title of the tax is checked on the whole charge alone.
-/

namespace ShopPayments
namespace Sale

variable {s : Sale} {item : LineItem}

/-- A charge for shipping: its name, price and tax, and how it is shown. -/
structure ShippingCharge where
  name : String
  price : Decimal
  tax : Except Overflow Decimal
  taxes : List LineItemTax
  type : LineItemType

/-- The only charge of shipping costs with one tax. -/
def wholeCharge (s : Sale) : ShippingCharge where
  name := s.shippingName
  price := s.order.shippingTotal
  tax := s.order.shippingCosts.taxAmount
  taxes := s.order.shippingCosts.taxes.map (titledTax s.shippingName)
  type := .shipping

/-- The name of the charge for one of several taxes. -/
def shareName (s : Sale) (tax : CalculatedTax) : String :=
  Money.rateText tax.rate ++ "%-" ++ s.shippingName

/-- The title of the tax of such a charge. -/
def shareTitle (tax : CalculatedTax) : String := "Tax rate: " ++ Money.rateText tax.rate

/-- The charge for one of several taxes. -/
def shareCharge (s : Sale) (tax : CalculatedTax) (type : LineItemType) : ShippingCharge where
  name := s.shareName tax
  price := tax.price
  tax := .ok tax.tax
  taxes := [⟨tax.rate, shareTitle tax⟩]
  type

/-- The charges for several taxes. -/
def shareCharges (s : Sale) : List CalculatedTax → List ShippingCharge
  | [] => []
  | first :: others => s.shareCharge first .shipping :: others.map (s.shareCharge · .fee)

/-- What does not depend on how a charge is shown is read off the taxes. -/
theorem map_shareCharges {α : Type} (f : ShippingCharge → α) (g : CalculatedTax → α)
    (h : ∀ tax type, f (s.shareCharge tax type) = g tax) (taxes : List CalculatedTax) :
    (s.shareCharges taxes).map f = taxes.map g := by
  cases taxes with
  | nil => rfl
  | cons first others =>
    rw [shareCharges, List.map_cons, List.map_map, List.map_cons, h]
    exact congrArg (g first :: ·) (List.map_congr_left fun tax _ ↦ h tax .fee)

/-- The charges for shipping. -/
def shippingCharges (s : Sale) : List ShippingCharge :=
  if s.order.shippingCosts.taxes.length = 1 then
    if Money.round s.order.shippingTotal ≤ 0 then [] else [s.wholeCharge]
  else if s.order.shippingTotal ≤ 0 then []
  else s.shareCharges s.order.shippingCosts.taxes

/-- The id of a charge with a name. -/
def shippingId (name : String) : String := Text.cut (name ++ "-Shipping") 200

/-- The line item of a charge for an amount. -/
def shippingLine (s : Sale) (charge : ShippingCharge) (amount : Decimal) : LineItem where
  amount
  attributes := .empty
  name := Text.cut (charge.name ++ " " ++ s.labels.shippingItem) 150
  quantity := s.order.shippingCosts.quantity
  shippingRequired := none
  sku := some (shippingId charge.name)
  taxes := if s.order.isTaxFree then [] else charge.taxes
  type := charge.type
  uniqueId := shippingId charge.name

theorem isValid_shippingLine (s : Sale) (charge : ShippingCharge) (amount : Decimal) :
    isValid (s.shippingLine charge amount) = true := by
  have hblank : Text.size " " = 1 := by decide
  have hsuffix : Text.size "-Shipping" = 9 := by decide
  have hid : 0 < Text.size (shippingId charge.name) ∧ Text.size (shippingId charge.name) ≤ 200 := by
    rw [shippingId, Text.size_cut, Text.size_append]
    omega
  rw [LineItem.isValid_iff_size]
  refine ⟨?_, ?_, hid⟩
  · rw [shippingLine, Text.size_cut, Text.size_append, Text.size_append]
    omega
  · intro sku hsku
    rw [← Option.mem_some_iff.mp hsku]
    exact hid.2

/-- The line item of a charge. -/
def chargeLine (s : Sale) (charge : ShippingCharge) : Except Failure LineItem := do
  let amount ← s.chargeFor charge.price charge.tax
  pure (s.shippingLine charge amount)

theorem wholeShippingItem_eq (s : Sale) :
    s.wholeShippingItem =
      (if Money.round s.order.shippingTotal ≤ 0 then []
        else [s.wholeCharge]).mapM s.chargeLine := by
  unfold wholeShippingItem
  dsimp only
  split
  · rfl
  · rw [titledTaxes_eq, ok_bind, List.mapM_cons, List.mapM_nil, chargeLine, bind_assoc]
    apply bind_congr
    intro amount
    -- The check of the line item succeeds whatever the texts are, so it falls away.
    have hline := ensureValid_of_isValid (s.isValid_shippingLine s.wholeCharge amount)
    simp only [shippingLine, wholeCharge, shippingId] at hline ⊢
    rw [hline]
    rfl

theorem shippingShare_eq (s : Sale) (tax : CalculatedTax) (type : LineItemType) :
    s.shippingShare tax type = s.chargeLine (s.shareCharge tax type) := by
  unfold shippingShare chargeLine
  apply bind_congr
  intro amount
  have hline := ensureValid_of_isValid (s.isValid_shippingLine (s.shareCharge tax type) amount)
  simp only [shippingLine, shareCharge, shareName, shareTitle, shippingId] at hline ⊢
  exact hline

theorem splitShippingItems_eq (s : Sale) :
    s.splitShippingItems =
      (if s.order.shippingTotal ≤ 0 then [] else s.shareCharges s.order.shippingCosts.taxes).mapM
        s.chargeLine := by
  unfold splitShippingItems
  split
  · rfl
  · split
    next hnone =>
      rw [hnone]
      rfl
    next first others htaxes =>
      rw [htaxes, shareCharges, List.mapM_cons, List.mapM_map]
      simp only [shippingShare_eq]
      rfl

theorem failsOnly_chargeLine (s : Sale) (charge : ShippingCharge) :
    FailsOnly Failure.IsOverflow (s.chargeLine charge) := by
  apply (failsOnly_chargeFor s _ _).bind
  intro amount _
  exact .pure _

theorem orNothing_eq {result : Except Failure (List LineItem)}
    (h : FailsOnly Failure.IsOverflow result) : orNothing result = result := by
  unfold orNothing
  split
  · rfl
  · rfl
  next cause hother =>
    obtain ⟨operation, rfl⟩ := h cause rfl
    exact absurd rfl (hother operation)

/-- No charge is dropped. -/
theorem shippingItems_eq (s : Sale) : s.shippingItems = s.shippingCharges.mapM s.chargeLine := by
  have hpaths : (if s.order.shippingCosts.taxes.length = 1 then s.wholeShippingItem
      else s.splitShippingItems) = s.shippingCharges.mapM s.chargeLine := by
    unfold shippingCharges
    split
    · exact wholeShippingItem_eq s
    · exact splitShippingItems_eq s
  rw [shippingItems, hpaths]
  exact orNothing_eq (FailsOnly.mapM fun charge _ ↦ failsOnly_chargeLine s charge)

theorem failsOnly_shippingItems (s : Sale) : FailsOnly Failure.IsOverflow s.shippingItems := by
  rw [shippingItems_eq]
  exact FailsOnly.mapM fun charge _ ↦ failsOnly_chargeLine s charge

/-- The line item is that of the charge. -/
structure IsShippingOf (s : Sale) (charge : ShippingCharge) (item : LineItem) : Prop where
  charged : s.chargeFor charge.price charge.tax = .ok item.amount
  item_eq : item = s.shippingLine charge item.amount

theorem chargeLine_eq_ok {charge : ShippingCharge} :
    s.chargeLine charge = .ok item ↔ s.IsShippingOf charge item := by
  have hread (amount : Decimal) : (s.shippingLine charge amount).amount = amount := rfl
  rw [chargeLine, bind_pure_eq_ok hread]
  exact ⟨fun h ↦ ⟨h.1, h.2⟩, fun h ↦ ⟨h.charged, h.item_eq⟩⟩

theorem forall₂_shippingItems {items : List LineItem} (h : s.shippingItems = .ok items) :
    List.Forall₂ s.IsShippingOf s.shippingCharges items := by
  rw [shippingItems_eq, mapM_eq_ok] at h
  exact h.imp fun _ _ ↦ chargeLine_eq_ok.mp

end Sale
end ShopPayments
