import ShopPayments.Payload.Items

/-!
# Preparing a payment

The complete update of the transaction of a checkout: line items, addresses, the
customer, the URLs for both outcomes and the data the shop wants to find again.
-/

namespace ShopPayments

/-- A filled-in text, cut to a length. -/
def cutFilled (s : Option String) (limit : Nat) : Option String :=
  (Text.filled? s).map (Text.cut · limit)

/-- The state of an address: its name, else its code. -/
def Address.stateText (a : Address) : Option String :=
  Text.filled? (a.state.bind (·.name)) <|> Text.filled? (a.state.bind (·.shortCode))

namespace Customer

/-- The first of two texts that is filled in, cut to a length. -/
def firstFilled (own fallback : Option String) (limit : Nat) : Option String :=
  (Text.filled? own <|> Text.filled? fallback).map (Text.cut · limit)

/-- An address of the customer for the payment service. Names that the address leaves out are
those of the customer. -/
def payloadAddress (c : Customer) (a : Address) (withTaxNumber : Bool) :
    Except Failure PayloadAddress :=
  ensureValid
    { city := cutFilled a.city 100
      country := a.country.bind (·.iso)
      birthday := c.birthday
      email := cutFilled (some c.email) 254
      familyName := firstFilled a.lastName c.lastName 100
      givenName := firstFilled a.firstName c.firstName 100
      organization := cutFilled a.company 100
      phone := cutFilled a.phone 100
      state := some (a.stateText.getD "")
      postcode := cutFilled a.zipcode 40
      salesTaxNumber := if withTaxNumber then c.vatIds.head? else none
      salutation := firstFilled (a.salutation.bind (·.name)) (c.salutation.bind (·.name)) 20
      street := cutFilled a.street 300 }

/-- Salutation, first name and last name, with a blank for each that is missing. -/
def fullName (c : Customer) : String :=
  ((c.salutation.bind (·.name)).getD "") ++ " " ++ c.firstName.getD "" ++ " "
    ++ c.lastName.getD ""

end Customer

namespace Sale

/-- A text, or null. -/
def textOrNull (s : Option String) : Json Empty :=
  match s with
  | some text => .string text
  | none => .null

/-- What the shop stores with the transaction. Optional fields are only there when filled in. -/
def metaData (s : Sale) (customer : Customer) (customerName : Option String) :
    Dictionary (Json Empty) :=
  let fixed := [
    ("orderId", .string s.order.id),
    ("orderTransactionId", textOrNull s.order.transactionIds.head?),
    ("salesChannelId", .string s.context.salesChannel),
    ("customerName", textOrNull customerName)]
  let optional := [
    ("additionalAddress1", customer.defaultBilling.extraLine1),
    ("additionalAddress2", customer.defaultBilling.extraLine2),
    ("customer_comment", s.order.comment),
    ("taxNumber", customer.vatIds.head?),
    ("billingCompanyDepartment", customer.defaultBilling.department),
    ("shippingCompanyDepartment", customer.defaultShipping.department)]
  let filled := optional.filterMap fun e => (Text.filled? e.2).map fun text => (e.1, .string text)
  Dictionary.ofList (fixed ++ filled)

/-- Where a shopper is sent whose payment failed. -/
def failedUrl (s : Sale) : String :=
  Text.trimEnd s.settings.storefrontUrl '/' ++ "/weareplanet/checkout/recreate-cart?orderId="
    ++ s.order.id ++ "&status=fail"

/-- The update of a pending transaction. -/
def payload (s : Sale) (customer : Customer) (pending : PendingTransaction) (method : UInt64) :
    Except Failure Payload := do
  let items ← s.items
  let billing ← customer.payloadAddress customer.billing true
  let shipping ← customer.payloadAddress customer.shipping false
  ensureValid
    { id := pending.id
      version := pending.version
      allowedMethods := [method]
      billing := some billing
      currency := s.order.currency
      customerEmail := some customer.email
      customerId := if customer.guest then none else customer.number
      failedUrl := some s.failedUrl
      language := s.context.locale
      items
      merchantReference := some (Text.cut s.order.number 100)
      metaData := s.metaData customer (if customer.guest then none else some customer.fullName)
      shipping := some shipping
      shippingMethod := cutFilled s.context.shippingMethod 200
      spaceViewId := s.settings.spaceViewId
      successUrl := some (pending.returnUrl ++ "&status=paid") }

end Sale
end ShopPayments
