import ShopPayments.Json.Shape
import ShopPayments.Payload

/-!
# Payloads as JSON

Empty lists and missing values are left out.
-/

namespace ShopPayments

open Json (member memberUnless)
open Shape (required optional defaulted)

instance : Encode LineItemType where
  encode
    | .shipping => .string "SHIPPING"
    | .discount => .string "DISCOUNT"
    | .product => .string "PRODUCT"
    | .fee => .string "FEE"

/-- The type of a line item of a name. -/
def LineItemType.ofName? : String → Option LineItemType
  | "SHIPPING" => some .shipping
  | "DISCOUNT" => some .discount
  | "PRODUCT" => some .product
  | "FEE" => some .fee
  | _ => none

instance : Decode LineItemType := ⟨Json.decodeName LineItemType.ofName?⟩

instance : Encode LineItemTax where
  encode t := .object [member "rate" t.rate, member "title" t.title]

instance : Decode LineItemTax where
  decode := Shape.run <| LineItemTax.mk <$> required "rate" <*> required "title"

instance : Encode LineItemAttribute where
  encode a := .object [member "label" a.label, member "value" a.value]

instance : Decode LineItemAttribute where
  decode := Shape.run <| LineItemAttribute.mk <$> required "label" <*> required "value"

/-- A field that is left out when it has no value. -/
def Json.memberIfSome {α Hole : Type} [Encode α] (name : String) (value : Option α) :
    List (String × Json Hole) :=
  memberUnless value.isNone name value

open Json (memberIfSome)

instance : Encode LineItem where
  encode i := .object <|
    [member "amount_including_tax" i.amount]
      ++ memberUnless i.attributes.isEmpty "attributes" i.attributes
      ++ [member "name" i.name, member "quantity" i.quantity]
      ++ memberIfSome "shipping_required" i.shippingRequired
      ++ memberIfSome "sku" i.sku
      ++ memberUnless i.taxes.isEmpty "taxes" i.taxes
      ++ [member "type" i.type, member "unique_id" i.uniqueId]

instance : Decode LineItem where
  decode := Shape.run <|
    LineItem.mk <$> required "amount_including_tax" <*> defaulted "attributes" Dictionary.empty
      <*> required "name" <*> required "quantity" <*> defaulted "shipping_required" none
      <*> defaulted "sku" none <*> defaulted "taxes" [] <*> required "type"
      <*> required "unique_id"

instance : Encode PayloadAddress where
  encode a := .object <|
    memberIfSome "city" a.city ++ memberIfSome "country" a.country
      ++ memberIfSome "date_of_birth" a.birthday ++ memberIfSome "email_address" a.email
      ++ memberIfSome "family_name" a.familyName ++ memberIfSome "given_name" a.givenName
      ++ memberIfSome "organization_name" a.organization
      ++ memberIfSome "phone_number" a.phone ++ memberIfSome "postal_state" a.state
      ++ memberIfSome "postcode" a.postcode
      ++ memberIfSome "sales_tax_number" a.salesTaxNumber
      ++ memberIfSome "salutation" a.salutation ++ memberIfSome "street" a.street

instance : Decode PayloadAddress where
  decode := Shape.run <|
    PayloadAddress.mk <$> defaulted "city" none <*> defaulted "country" none
      <*> defaulted "date_of_birth" none <*> defaulted "email_address" none
      <*> defaulted "family_name" none <*> defaulted "given_name" none
      <*> defaulted "organization_name" none <*> defaulted "phone_number" none
      <*> defaulted "postal_state" none <*> defaulted "postcode" none
      <*> defaulted "sales_tax_number" none <*> defaulted "salutation" none
      <*> defaulted "street" none

instance : Encode Payload where
  encode p := .object <|
    [member "id" p.id, member "version" p.version]
      ++ memberUnless p.allowedMethods.isEmpty "allowed_payment_method_configurations"
        p.allowedMethods
      ++ memberIfSome "billing_address" p.billing
      ++ [member "currency" p.currency]
      ++ memberIfSome "customer_email_address" p.customerEmail
      ++ memberIfSome "customer_id" p.customerId
      ++ memberIfSome "failed_url" p.failedUrl
      ++ memberIfSome "language" p.language
      ++ [member "line_items" p.items]
      ++ memberIfSome "merchant_reference" p.merchantReference
      ++ [member "meta_data" p.metaData]
      ++ memberIfSome "shipping_address" p.shipping
      ++ memberIfSome "shipping_method" p.shippingMethod
      ++ memberIfSome "space_view_id" p.spaceViewId
      ++ memberIfSome "success_url" p.successUrl

instance : Decode Payload where
  decode := Shape.run <|
    Payload.mk <$> required "id" <*> required "version"
      <*> defaulted "allowed_payment_method_configurations" []
      <*> defaulted "billing_address" none <*> required "currency"
      <*> defaulted "customer_email_address" none <*> defaulted "customer_id" none
      <*> defaulted "failed_url" none <*> defaulted "language" none <*> required "line_items"
      <*> defaulted "merchant_reference" none <*> defaulted "meta_data" Dictionary.empty
      <*> defaulted "shipping_address" none <*> defaulted "shipping_method" none
      <*> defaulted "space_view_id" none <*> defaulted "success_url" none

end ShopPayments
