import ShopPayments.Money
import ShopPayments.Order
import ShopPayments.Payload
import ShopPayments.Settings
import ShopPayments.Text.Digest

/-!
# Line items of products

A `Sale` is an order together with what is needed to put it into line items. Each
item of the order that is neither a promotion nor the head of a customized
product gives one line item, with its taxes and its chosen options.
-/

namespace ShopPayments

/-- An order in its sales channel, with the settings and texts in force. -/
structure Sale where
  order : Order
  context : SalesContext
  settings : Settings
  labels : Labels

namespace Sale

/-- The amount in cents of a price, with its taxes on top where prices are net. -/
def chargeFor (s : Sale) (price : Decimal) (tax : Except Overflow Decimal) :
    Except Failure Decimal := do
  let amount := Money.round price
  if s.order.isNet then
    let tax ← tax
    let full ← amount.add tax
    pure (Money.round full)
  else pure amount

/-- The taxes of a line item with titles made of a text and the rate. -/
def titledTaxes (title : String) (taxes : List CalculatedTax) : Except Failure (List LineItemTax) :=
  taxes.mapM fun tax =>
    ensureValid
      (⟨tax.rate, Text.cut (title ++ " : " ++ Money.rateText tax.rate) 40⟩ : LineItemTax)

/-- Key of a chosen option among the attributes. -/
def optionKey (group : String) : String := Text.cut ("option_" ++ Digest.hex group) 40

/-- A chosen option as an attribute under its key. -/
def optionAttribute (o : ProductOption) : Except Failure (String × LineItemAttribute) := do
  let shown ← ensureValid
    (⟨Text.cut o.group 512, Text.cut o.option 512⟩ : LineItemAttribute)
  pure (optionKey o.group, shown)

/-- The chosen options of a product; of two in the same group the last one counts. -/
def optionAttributes (options : List ProductOption) :
    Except Failure (Dictionary LineItemAttribute) := do
  let attributes ← options.mapM optionAttribute
  pure (Dictionary.ofList attributes)

/-- Label of the product to which a chosen option belongs: the first one with the same parent. -/
def productLabel (s : Sale) (parentId : Option String) : String :=
  let belongs := fun (i : OrderItem) =>
    i.kind = .product && parentId.isSome && i.parentId = parentId
  ((s.order.items.find? belongs).bind (·.label)).getD ""

/-- The label of an item in the payload. -/
def labelOf (s : Sale) (i : OrderItem) : String :=
  let own := i.label.getD ""
  if i.kind = .customOption then s.productLabel i.parentId ++ ": " ++ own else own

/-- The stock-keeping text of an item: its product number, else the product, else itself. -/
def skuOf (i : OrderItem) : String :=
  ((Text.filled? i.product.number <|> Text.filled? i.productId).getD i.id)

/-- The line item of an item of the order. -/
def productItem (s : Sale) (i : OrderItem) : Except Failure LineItem := do
  let total := i.total.getD 0
  let amount ← s.chargeFor total i.price.taxAmount
  let taxes ← if s.order.isTaxFree then pure [] else titledTaxes s.labels.taxes i.price.taxes
  let attributes ← optionAttributes i.product.options
  ensureValid
    { amount, attributes
      name := Text.cut (s.labelOf i) 150
      quantity := i.quantity
      shippingRequired := none
      sku := some (Text.cut (skuOf i) 200)
      taxes
      type := if 0 ≤ total then .product else .discount
      uniqueId := i.id }

/-- Whether an item of the order stands for itself in the payload. -/
def isCharged (i : OrderItem) : Bool := i.kind != .custom && i.kind != .promotion

/-- The line items of all products. -/
def productItems (s : Sale) : Except Failure (List LineItem) :=
  (s.order.items.filter isCharged).mapM s.productItem

end Sale
end ShopPayments
