import ShopPayments.Payload.Sale

/-!
# Line items of the shipping costs

Shipping costs with exactly one tax give one item for the shipping total. With
any other number of taxes each tax gives an item for its own price, the first as
shipping and the others as fees. An item that the payment service would turn down
drops the whole shipping part, which is then left to the adjustment.
-/

namespace ShopPayments
namespace Sale

/-- Name of the shipping method. -/
def shippingName (s : Sale) : String := s.context.shippingMethod.getD s.labels.shippingName

/-- The only item of shipping costs with one tax; none without costs. -/
def wholeShippingItem (s : Sale) : Except Failure (List LineItem) := do
  let amount := Money.round s.order.shippingTotal
  if amount ≤ 0 then pure []
  else
    let costs := s.order.shippingCosts
    let taxes ← titledTaxes s.shippingName costs.taxes
    let amount ← s.chargeFor s.order.shippingTotal costs.taxAmount
    let id := Text.cut (s.shippingName ++ "-Shipping") 200
    let item ← ensureValid
      { amount
        attributes := .empty
        name := Text.cut (s.shippingName ++ " " ++ s.labels.shippingItem) 150
        quantity := costs.quantity
        shippingRequired := none
        sku := some id
        taxes := if s.order.isTaxFree then [] else taxes
        type := .shipping
        uniqueId := id : LineItem }
    pure [item]

/-- The item of the shipping costs for one of several taxes. -/
def shippingShare (s : Sale) (tax : CalculatedTax) (type : LineItemType) :
    Except Failure LineItem := do
  let amount ← s.chargeFor tax.price (.ok tax.tax)
  let rateText := Money.rateText tax.rate
  let name := rateText ++ "%-" ++ s.shippingName
  let id := Text.cut (name ++ "-Shipping") 200
  ensureValid
    { amount
      attributes := .empty
      name := Text.cut (name ++ " " ++ s.labels.shippingItem) 150
      quantity := s.order.shippingCosts.quantity
      shippingRequired := none
      sku := some id
      taxes := if s.order.isTaxFree then [] else [⟨tax.rate, "Tax rate: " ++ rateText⟩]
      type
      uniqueId := id }

/-- The items of shipping costs with several taxes or none. -/
def splitShippingItems (s : Sale) : Except Failure (List LineItem) :=
  if s.order.shippingTotal ≤ 0 then .ok []
  else
    match s.order.shippingCosts.taxes with
    | [] => .ok []
    | first :: others => do
      let shipping ← s.shippingShare first .shipping
      let fees ← others.mapM fun tax => s.shippingShare tax .fee
      pure (shipping :: fees)

/-- Nothing in place of items that cannot be built; only an overflow still counts. -/
def orNothing (result : Except Failure (List LineItem)) : Except Failure (List LineItem) :=
  match result with
  | .ok items => .ok items
  | .error (.overflow operation) => .error (.overflow operation)
  | .error _ => .ok []

/-- The line items of the shipping costs. -/
def shippingItems (s : Sale) : Except Failure (List LineItem) :=
  orNothing <|
    if s.order.shippingCosts.taxes.length = 1 then s.wholeShippingItem else s.splitShippingItems

end Sale
end ShopPayments
