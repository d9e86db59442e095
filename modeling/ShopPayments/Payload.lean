import ShopPayments.CalendarDate
import ShopPayments.Dictionary
import ShopPayments.Failure

/-!
# Transaction payloads

The update of a pending transaction as the payment service takes it, with the
limits that the service puts on its texts.
-/

namespace ShopPayments

open Violation (needs check atMost atLeast)

/-- What a line item is to the payment service. -/
inductive LineItemType where
  | shipping
  | discount
  | product
  | fee
  deriving DecidableEq, Repr

/-- A tax of a line item. -/
structure LineItemTax where
  rate : Decimal
  title : String
  deriving DecidableEq

instance : Validated LineItemTax where
  entity := "Tax"
  violations t :=
    needs "title" t.title ++ atMost "title" 40 t.title ++ atLeast "title" 2 t.title

/-- A labelled value shown with a line item. -/
structure LineItemAttribute where
  label : String
  value : String
  deriving DecidableEq, Repr

instance : Validated LineItemAttribute where
  entity := "LineItemAttributeCreate"
  violations a :=
    needs "label" a.label ++ atMost "label" 512 a.label ++ needs "value" a.value
      ++ atMost "value" 512 a.value

/-- A line item of a payload. -/
structure LineItem where
  amount : Decimal
  attributes : Dictionary LineItemAttribute
  name : String
  quantity : UInt32
  shippingRequired : Option Bool
  sku : Option String
  taxes : List LineItemTax
  type : LineItemType
  uniqueId : String

instance : Validated LineItem where
  entity := "LineItem"
  violations i :=
    needs "name" i.name ++ atMost "name" 150 i.name ++ atMost "sku" 200 i.sku
      ++ needs "unique_id" i.uniqueId ++ atMost "unique_id" 200 i.uniqueId

/-- An address of a payload. -/
structure PayloadAddress where
  city : Option String
  country : Option String
  birthday : Option CalendarDate
  email : Option String
  familyName : Option String
  givenName : Option String
  organization : Option String
  phone : Option String
  state : Option String
  postcode : Option String
  salesTaxNumber : Option String
  salutation : Option String
  street : Option String
  deriving DecidableEq, Repr

instance : Validated PayloadAddress where
  entity := "Address"
  violations a :=
    atMost "city" 100 a.city ++ atMost "email_address" 254 a.email
      ++ atMost "family_name" 100 a.familyName ++ atMost "given_name" 100 a.givenName
      ++ atMost "organization_name" 100 a.organization ++ atMost "phone_number" 100 a.phone
      ++ atMost "postcode" 40 a.postcode ++ atMost "sales_tax_number" 100 a.salesTaxNumber
      ++ atMost "salutation" 20 a.salutation ++ atMost "street" 300 a.street

/-- The update of a pending transaction. -/
structure Payload where
  id : UInt64
  version : UInt32
  allowedMethods : List UInt64
  billing : Option PayloadAddress
  currency : String
  customerEmail : Option String
  customerId : Option String
  failedUrl : Option String
  language : Option String
  items : List LineItem
  merchantReference : Option String
  metaData : Dictionary (Json Empty)
  shipping : Option PayloadAddress
  shippingMethod : Option String
  spaceViewId : Option UInt64
  successUrl : Option String

instance : Validated Payload where
  entity := "Transaction"
  violations p :=
    check "id" (0 < p.id) ++ needs "currency" p.currency
      ++ atMost "customer_email_address" 254 p.customerEmail
      ++ atMost "customer_id" 100 p.customerId
      ++ atMost "failed_url" 2000 p.failedUrl ++ atLeast "failed_url" 9 p.failedUrl
      ++ atMost "merchant_reference" 100 p.merchantReference
      ++ atMost "shipping_method" 200 p.shippingMethod
      ++ atMost "success_url" 2000 p.successUrl ++ atLeast "success_url" 9 p.successUrl

end ShopPayments
