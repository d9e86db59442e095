import ShopPayments.PaymentMethod
import ShopPayments.Refund.Pricing
import ShopPayments.Table

/-!
# The gateway

State of a sandbox of the payment service: transactions and their refunds, each
under its space and id, and the payment methods configured in each space. Every
call is one step on that state.
-/

namespace ShopPayments

/-- A space together with the id of a transaction in it. -/
abbrev TransactionKey := UInt64 × UInt64

/-- The key under which a transaction is found. -/
def Transaction.key (t : Transaction) : TransactionKey := (t.space, t.id)

/-- The key of the transaction that a refund belongs to. -/
def Refund.key (r : Refund) : TransactionKey := (r.space, r.transaction)

/-- State of the payment service. -/
structure Gateway where
  transactions : Table TransactionKey Transaction
  refunds : Table TransactionKey (List Refund)
  methods : Table UInt64 (List PaymentMethod)
  /-- Id of the last refund. -/
  sequence : UInt64

namespace Gateway

/-- A service that nothing has happened at. -/
def empty : Gateway := ⟨.empty, .empty, .empty, 0⟩

/-- Stores a transaction, in place of one with the same key. -/
def insertTransaction (g : Gateway) (t : Transaction) : Gateway :=
  { g with transactions := g.transactions.insert t.key t }

/-- Configures the payment methods of a space. -/
def setMethods (g : Gateway) (space : UInt64) (methods : List PaymentMethod) : Gateway :=
  { g with methods := g.methods.insert space methods }

/-- A transaction of a space. -/
def transaction? (g : Gateway) (space id : UInt64) : Option Transaction :=
  g.transactions.get? (space, id)

/-- A transaction of a space, which has to be there. -/
def transaction (g : Gateway) (space id : UInt64) : Except Failure Transaction :=
  match g.transaction? space id with
  | some t => .ok t
  | none => .error (.unknownTransaction id)

/-- The refunds of a transaction, in the order in which they were booked. -/
def refundsOf (g : Gateway) (space id : UInt64) : List Refund :=
  (g.refunds.get? (space, id)).getD []

/-- The payment methods of a space. -/
def methodsOf (g : Gateway) (space : UInt64) : List PaymentMethod :=
  (g.methods.get? space).getD []

/-- The id of the next refund. -/
def nextId (g : Gateway) : Except Failure UInt64 :=
  if g.sequence.toNat + 1 < UInt64.size then .ok (g.sequence + 1) else .error (.overflow .count)

/-- Books a refund of a transaction of a space. A failing call changes nothing. -/
def createRefund (g : Gateway) (space : UInt64) (request : RefundRequest) :
    Except Failure (Refund × Gateway) := do
  let id ← g.nextId
  let t ← g.transaction space request.transaction
  let booking ← t.book request id
  let key := (space, request.transaction)
  let after : Gateway :=
    { g with
      transactions := g.transactions.insert key booking.transaction
      refunds := g.refunds.append key booking.refund
      sequence := id }
  pure (booking.refund, after)

end Gateway
end ShopPayments
