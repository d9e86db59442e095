import ShopPayments.Payload

/-!
# Transactions and refunds

Transactions as the payment service keeps them, the requests to refund them, and
the refunds that were booked. A refund is asked for either as a plain amount or
as reductions of line items: whole units, and a lower price for the other units.
-/

namespace ShopPayments

open Violation (needs check atMost)

/-- Where a transaction stands. -/
inductive TransactionState where
  | create
  | pending
  | confirmed
  | processing
  | failed
  | authorized
  | voided
  | completed
  | fulfill
  | decline
  deriving DecidableEq, Repr

/-- A line item of a transaction. -/
structure TransactionItem where
  uniqueId : String
  name : String
  sku : Option String
  quantity : UInt32
  unitPrice : Decimal
  amount : Decimal
  type : LineItemType
  deriving DecidableEq

/-- A transaction of a space. Ids are unique within their space only. -/
structure Transaction where
  id : UInt64
  space : UInt64
  state : TransactionState
  merchantReference : Option String
  currency : String
  authorized : Decimal
  captured : Decimal
  refunded : Decimal
  items : List TransactionItem
  supportsRefunds : Bool
  deriving DecidableEq

/-- The first line item with an id. -/
def Transaction.item? (t : Transaction) (id : String) : Option TransactionItem :=
  t.items.find? fun i => i.uniqueId = id

/-- The line item with an id, which has to be there. -/
def Transaction.item (t : Transaction) (id : String) : Except Failure TransactionItem :=
  match t.item? id with
  | some i => .ok i
  | none => .error (.unknownItem id)

/-- Who asked for a refund, and how it is carried out. -/
inductive RefundType where
  | merchantOnline
  | merchantOffline
  | customerAutomatic
  | customerManual
  deriving DecidableEq, Repr

/-- Units of a line item that are given back, and the price cut on each of the others. -/
structure Reduction where
  item : String
  units : UInt32
  priceCut : Decimal
  deriving DecidableEq

/-- A request to refund a transaction. -/
structure RefundRequest where
  amount : Option Decimal
  externalId : String
  merchantReference : Option String
  reductions : List Reduction
  transaction : UInt64
  type : RefundType
  deriving DecidableEq

instance : Validated RefundRequest where
  entity := "Refund"
  violations r :=
    needs "external_id" r.externalId ++ atMost "external_id" 100 r.externalId
      ++ atMost "merchant_reference" 100 r.merchantReference
      ++ check "transaction" (0 < r.transaction)
      ++ r.reductions.flatMap fun reduction => needs "line_item_unique_id" reduction.item

/-- Where a refund stands. -/
inductive RefundState where
  | create
  | scheduled
  | pending
  | manualCheck
  | failed
  | successful
  deriving DecidableEq, Repr

/-- A booked refund. -/
structure Refund where
  id : UInt64
  space : UInt64
  transaction : UInt64
  state : RefundState
  amount : Decimal
  externalId : String
  reductions : List Reduction
  deriving DecidableEq

end ShopPayments
