import ShopPayments.Json.Shape
import ShopPayments.Order

/-!
# Orders as JSON

Field names and defaults of everything the shop hands over.
-/

namespace ShopPayments

open Json (member)
open Shape (required optional defaulted)

instance : Encode TaxStatus where
  encode
    | .gross => .string "gross"
    | .net => .string "net"
    | .taxFree => .string "tax-free"

/-- The tax status of a name. -/
def TaxStatus.ofName? : String → Option TaxStatus
  | "gross" => some .gross
  | "net" => some .net
  | "tax-free" => some .taxFree
  | _ => none

instance : Decode TaxStatus := ⟨Json.decodeName TaxStatus.ofName?⟩

instance : Encode CalculatedTax where
  encode t := .object [member "tax" t.tax, member "tax_rate" t.rate, member "price" t.price]

instance : Decode CalculatedTax where
  decode := Shape.run <|
    CalculatedTax.mk <$> required "tax" <*> required "tax_rate" <*> required "price"

instance : Encode TaxRule where
  encode r := .object [member "tax_rate" r.rate, member "percentage" r.percentage]

instance : Decode TaxRule where
  decode := Shape.run <|
    TaxRule.mk <$> required "tax_rate" <*> defaulted "percentage" Decimal.hundred

instance : Encode Price where
  encode p := .object [
    member "unit_price" p.unitPrice,
    member "quantity" p.quantity,
    member "total_price" p.total,
    member "calculated_taxes" p.taxes,
    member "tax_rules" p.rules]

instance : Decode Price where
  decode := Shape.run <|
    Price.mk <$> defaulted "unit_price" 0 <*> defaulted "quantity" 1
      <*> defaulted "total_price" 0 <*> defaulted "calculated_taxes" []
      <*> defaulted "tax_rules" []

instance : Encode PriceDefinition where
  encode
    | .absolute => .string "absolute"
    | .percentage => .string "percentage"
    | .quantity => .string "quantity"

/-- The price definition of a name. -/
def PriceDefinition.ofName? : String → Option PriceDefinition
  | "absolute" => some .absolute
  | "percentage" => some .percentage
  | "quantity" => some .quantity
  | _ => none

instance : Decode PriceDefinition := ⟨Json.decodeName PriceDefinition.ofName?⟩

instance : Encode ItemKind where
  encode
    | .product => .string "product"
    | .promotion => .string "promotion"
    | .custom => .string "customized-products"
    | .customOption => .string "customized-products-option"
    | .other => .string "other"

/-- The kind of an item of a name; every unknown name is some other kind. -/
def ItemKind.ofName? : String → Option ItemKind
  | "product" => some .product
  | "promotion" => some .promotion
  | "customized-products" => some .custom
  | "customized-products-option" => some .customOption
  | _ => some .other

instance : Decode ItemKind := ⟨Json.decodeName ItemKind.ofName?⟩

instance : Encode ProductOption where
  encode o := .object [member "group" o.group, member "option" o.option]

instance : Decode ProductOption where
  decode := Shape.run <| ProductOption.mk <$> required "group" <*> required "option"

instance : Encode ProductData where
  encode d := .object [member "productNumber" d.number, member "options" d.options]

instance : Decode ProductData where
  decode := Shape.run <|
    ProductData.mk <$> defaulted "productNumber" none <*> defaulted "options" []

instance : Encode OrderItem where
  encode i := .object [
    member "id" i.id,
    member "parent_id" i.parentId,
    member "type" i.kind,
    member "label" i.label,
    member "product_id" i.productId,
    member "quantity" i.quantity,
    member "total_price" i.total,
    member "price" i.price,
    member "price_definition" i.definition,
    member "payload" i.product]

instance : Decode OrderItem where
  decode := Shape.run <|
    OrderItem.mk <$> required "id" <*> defaulted "parent_id" none <*> defaulted "type" .product
      <*> defaulted "label" none <*> defaulted "product_id" none <*> defaulted "quantity" 1
      <*> defaulted "total_price" none <*> defaulted "price" Price.zero
      <*> defaulted "price_definition" none <*> defaulted "payload" ⟨none, []⟩

instance : Encode Order where
  encode o := .object [
    member "id" o.id,
    member "order_number" o.number,
    member "currency_iso" o.currency,
    member "tax_status" o.taxStatus,
    member "amount_total" o.total,
    member "shipping_total" o.shippingTotal,
    member "shipping_costs" o.shippingCosts,
    member "line_items" o.items,
    member "customer_comment" o.comment,
    member "transaction_ids" o.transactionIds]

instance : Decode Order where
  decode := Shape.run <|
    Order.mk <$> required "id" <*> required "order_number" <*> required "currency_iso"
      <*> defaulted "tax_status" .gross <*> required "amount_total"
      <*> defaulted "shipping_total" 0 <*> defaulted "shipping_costs" Price.zero
      <*> defaulted "line_items" [] <*> defaulted "customer_comment" none
      <*> defaulted "transaction_ids" []

instance : Encode Salutation := ⟨fun s => .object [member "display_name" s.name]⟩

instance : Decode Salutation := ⟨Shape.run (Salutation.mk <$> optional "display_name")⟩

instance : Encode Country := ⟨fun c => .object [member "iso" c.iso]⟩

instance : Decode Country := ⟨Shape.run (Country.mk <$> optional "iso")⟩

instance : Encode CountryState where
  encode s := .object [member "name" s.name, member "short_code" s.shortCode]

instance : Decode CountryState where
  decode := Shape.run <|
    CountryState.mk <$> defaulted "name" none <*> defaulted "short_code" none

instance : Encode Address where
  encode a := .object [
    member "first_name" a.firstName,
    member "last_name" a.lastName,
    member "company" a.company,
    member "department" a.department,
    member "street" a.street,
    member "zipcode" a.zipcode,
    member "city" a.city,
    member "phone_number" a.phone,
    member "additional_address_line1" a.extraLine1,
    member "additional_address_line2" a.extraLine2,
    member "country" a.country,
    member "country_state" a.state,
    member "salutation" a.salutation]

instance : Decode Address where
  decode := Shape.run <|
    Address.mk <$> defaulted "first_name" none <*> defaulted "last_name" none
      <*> defaulted "company" none <*> defaulted "department" none <*> defaulted "street" none
      <*> defaulted "zipcode" none <*> defaulted "city" none <*> defaulted "phone_number" none
      <*> defaulted "additional_address_line1" none
      <*> defaulted "additional_address_line2" none <*> defaulted "country" none
      <*> defaulted "country_state" none <*> defaulted "salutation" none

instance : Encode Customer where
  encode c := .object [
    member "customer_number" c.number,
    member "guest" c.guest,
    member "email" c.email,
    member "first_name" c.firstName,
    member "last_name" c.lastName,
    member "salutation" c.salutation,
    member "birthday" c.birthday,
    member "vat_ids" c.vatIds,
    member "active_billing_address" c.billing,
    member "active_shipping_address" c.shipping,
    member "default_billing_address" c.usualBilling,
    member "default_shipping_address" c.usualShipping]

instance : Decode Customer where
  decode := Shape.run <|
    Customer.mk <$> defaulted "customer_number" none <*> defaulted "guest" false
      <*> required "email" <*> defaulted "first_name" none <*> defaulted "last_name" none
      <*> defaulted "salutation" none <*> defaulted "birthday" none <*> defaulted "vat_ids" []
      <*> required "active_billing_address" <*> required "active_shipping_address"
      <*> defaulted "default_billing_address" none
      <*> defaulted "default_shipping_address" none

instance : Encode SalesContext where
  encode c := .object [
    member "sales_channel_id" c.salesChannel,
    member "payment_method_id" c.paymentMethod,
    member "shipping_method_name" c.shippingMethod,
    member "locale_code" c.locale]

instance : Decode SalesContext where
  decode := Shape.run <|
    SalesContext.mk <$> required "sales_channel_id" <*> required "payment_method_id"
      <*> defaulted "shipping_method_name" none <*> defaulted "locale_code" none

instance : Encode PendingTransaction where
  encode p := .object [
    member "id" p.id,
    member "version" p.version,
    member "return_url" p.returnUrl]

instance : Decode PendingTransaction where
  decode := Shape.run <|
    PendingTransaction.mk <$> required "id" <*> required "version" <*> required "return_url"

instance : Encode Checkout where
  encode c := .object [
    member "order" c.order,
    member "customer" c.customer,
    member "context" c.context,
    member "pending" c.pending]

instance : Decode Checkout where
  decode := Shape.run <|
    Checkout.mk <$> required "order" <*> required "customer" <*> required "context"
      <*> required "pending"

end ShopPayments
