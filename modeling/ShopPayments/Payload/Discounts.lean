import ShopPayments.Payload.Sale

/-!
# Line items of promotions

A promotion gives one discount for each tax it touches: for each of its taxes
where those are known, else for each of its tax rules, which carry a share of the
total, else a single one at the standard rate.
-/

namespace ShopPayments
namespace Sale

/-- The line item of a discount at one tax rate. -/
def discountItem (s : Sale) (name : String) (amount rate : Decimal) : LineItem :=
  let rateText := Money.rateText rate
  let taxFree := s.order.isTaxFree
  let sku :=
    if taxFree then "sku-discount-" ++ name else "sku-discount-" ++ rateText ++ "-" ++ name
  let title :=
    if taxFree then "DISCOUNT: " ++ name
    else "DISCOUNT: " ++ name ++ " (" ++ rateText ++ "% tax)"
  let sku := Text.cut sku 200
  { amount
    attributes := .empty
    name := Text.cut title 150
    quantity := 1
    shippingRequired := some false
    sku := some sku
    taxes := if taxFree then [] else [⟨rate, Text.cut ("Discount Tax: " ++ rateText) 40⟩]
    type := .discount
    uniqueId := Text.cut ("coupon-" ++ sku) 200 }

/-- The share of a total that a tax rule carries, in cents. -/
def ruleShare (total percentage : Decimal) : Except Failure Decimal := do
  let scaled ← total.mul percentage
  pure (Money.round (scaled.divCount 100 (by decide)))

/-- Whether a promotion is split by its taxes and not by its tax rules. -/
def splitsByTaxes (s : Sale) (promotion : OrderItem) : Bool :=
  s.order.isNet || promotion.definition = some .absolute

/-- The line items of a promotion. -/
def promotionItems (s : Sale) (promotion : OrderItem) : Except Failure (List LineItem) :=
  let name := promotion.label.getD "Unnamed"
  let price := promotion.price
  if s.splitsByTaxes promotion then
    price.taxes.mapM fun tax => do
      let amount ← s.chargeFor tax.price (.ok tax.tax)
      pure (s.discountItem name amount tax.rate)
  else if price.rules.isEmpty then
    .ok [s.discountItem name (Money.round price.total) s.settings.defaultTaxRate]
  else
    price.rules.mapM fun rule => do
      let amount ← ruleShare price.total rule.percentage
      pure (s.discountItem name amount rule.rate)

/-- The line items of all promotions. -/
def discountItems (s : Sale) : Except Failure (List LineItem) := do
  let groups ← (s.order.items.filter (·.kind = .promotion)).mapM s.promotionItems
  pure groups.flatten

end Sale
end ShopPayments
