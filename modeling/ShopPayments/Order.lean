import ShopPayments.CalendarDate
import ShopPayments.Decimal.Arithmetic

/-!
# Orders of the shop

What the shop hands over when a payment starts: the order with its items and
shipping costs, the customer with the addresses, and the sales channel in which
the checkout runs.
-/

namespace ShopPayments

/-- How the prices of an order relate to taxes. -/
inductive TaxStatus where
  /-- Prices include taxes. -/
  | gross
  /-- Taxes are added on top of the prices. -/
  | net
  | taxFree
  deriving DecidableEq, Repr

/-- A tax worked out for a price. -/
structure CalculatedTax where
  tax : Decimal
  rate : Decimal
  price : Decimal
  deriving DecidableEq

/-- A tax rate and the share of a price, in percent, that it applies to. -/
structure TaxRule where
  rate : Decimal
  percentage : Decimal
  deriving DecidableEq

/-- A price with its taxes. -/
structure Price where
  unitPrice : Decimal
  quantity : UInt32
  total : Decimal
  taxes : List CalculatedTax
  rules : List TaxRule
  deriving DecidableEq

namespace Price

/-- One unit for nothing. -/
def zero : Price := ⟨0, 1, 0, [], []⟩

/-- Sum of all taxes of the price. -/
def taxAmount (p : Price) : Except Overflow Decimal := Decimal.sum (p.taxes.map (·.tax))

end Price

/-- How the price of an item was given. -/
inductive PriceDefinition where
  | absolute
  | percentage
  | quantity
  deriving DecidableEq, Repr

/-- What an item of an order is. -/
inductive ItemKind where
  | product
  | promotion
  /-- A product made to order; its options are items of their own. -/
  | custom
  | customOption
  | other
  deriving DecidableEq, Repr

/-- A chosen variant of a product, such as a colour. -/
structure ProductOption where
  group : String
  option : String
  deriving DecidableEq, Repr

/-- Product data of an item. -/
structure ProductData where
  number : Option String
  options : List ProductOption
  deriving DecidableEq, Repr

/-- An item of an order. -/
structure OrderItem where
  id : String
  parentId : Option String
  kind : ItemKind
  label : Option String
  productId : Option String
  quantity : UInt32
  total : Option Decimal
  price : Price
  definition : Option PriceDefinition
  product : ProductData
  deriving DecidableEq

/-- An order; its transactions are listed from the oldest on. -/
structure Order where
  id : String
  number : String
  currency : String
  taxStatus : TaxStatus
  total : Decimal
  shippingTotal : Decimal
  shippingCosts : Price
  items : List OrderItem
  comment : Option String
  transactionIds : List String
  deriving DecidableEq

namespace Order

/-- Whether no taxes are due. -/
def isTaxFree (o : Order) : Bool := o.taxStatus = .taxFree

/-- Whether taxes are added on top. -/
def isNet (o : Order) : Bool := o.taxStatus = .net

end Order

/-- How a person is addressed. -/
structure Salutation where
  name : Option String
  deriving DecidableEq, Repr

/-- A country by its code. -/
structure Country where
  iso : Option String
  deriving DecidableEq, Repr

/-- A state of a country. -/
structure CountryState where
  name : Option String
  shortCode : Option String
  deriving DecidableEq, Repr

/-- An address as the customer filled it in. -/
structure Address where
  firstName : Option String
  lastName : Option String
  company : Option String
  department : Option String
  street : Option String
  zipcode : Option String
  city : Option String
  phone : Option String
  extraLine1 : Option String
  extraLine2 : Option String
  country : Option Country
  state : Option CountryState
  salutation : Option Salutation
  deriving DecidableEq, Repr

/-- A customer of the shop. -/
structure Customer where
  number : Option String
  guest : Bool
  email : String
  firstName : Option String
  lastName : Option String
  salutation : Option Salutation
  birthday : Option CalendarDate
  vatIds : List String
  billing : Address
  shipping : Address
  usualBilling : Option Address
  usualShipping : Option Address
  deriving DecidableEq, Repr

namespace Customer

/-- The usual billing address, if there is none the one of this order. -/
def defaultBilling (c : Customer) : Address := c.usualBilling.getD c.billing

/-- The usual shipping address, if there is none the one of this order. -/
def defaultShipping (c : Customer) : Address := c.usualShipping.getD c.shipping

end Customer

/-- The sales channel of a checkout with the choices made there. -/
structure SalesContext where
  salesChannel : String
  paymentMethod : String
  shippingMethod : Option String
  locale : Option String
  deriving DecidableEq, Repr

/-- The transaction opened when the checkout started, and where the shopper comes back to. -/
structure PendingTransaction where
  id : UInt64
  version : UInt32
  returnUrl : String
  deriving DecidableEq, Repr

/-- All that is known when a payment is prepared. -/
structure Checkout where
  order : Order
  customer : Customer
  context : SalesContext
  pending : PendingTransaction
  deriving DecidableEq

end ShopPayments
