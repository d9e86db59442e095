import ShopPayments.Gateway

/-!
# Snapshots

The whole state as plain lists, as it is kept between two runs. Restoring groups
the lists by the keys that their values carry; capturing flattens the tables into
lists sorted by space and id.
-/

namespace ShopPayments

/-- The state of gateway and store as lists. -/
structure Snapshot where
  transactions : List Transaction
  refunds : List Refund
  methods : List PaymentMethod
  stored : List StoredMethod
  sequence : UInt64

/-- The state of the payment service and what the shop stored of its payment methods. -/
structure Sandbox where
  gateway : Gateway
  store : MethodStore

namespace Snapshot

/-- A snapshot of nothing. -/
def empty : Snapshot := ⟨[], [], [], [], 0⟩

/-- The transactions under their keys; of two with one key the later one counts. -/
def transactionTable (transactions : List Transaction) : Table TransactionKey Transaction :=
  transactions.foldl (fun table t => table.insert t.key t) .empty

/-- The refunds under the keys of their transactions. -/
def refundTable (refunds : List Refund) : Table TransactionKey (List Refund) :=
  refunds.foldl (fun table r => table.append r.key r) .empty

/-- The payment methods under their spaces. -/
def methodTable (methods : List PaymentMethod) : Table UInt64 (List PaymentMethod) :=
  methods.foldl (fun table m => table.append m.space m) .empty

/-- The stored methods under their ids; of two with one id the later one counts. -/
def storeTable (stored : List StoredMethod) : MethodStore :=
  stored.foldl MethodStore.store .empty

/-- Puts a snapshot into fresh stores. -/
def restore (s : Snapshot) : Sandbox where
  gateway := {
    transactions := transactionTable s.transactions
    refunds := refundTable s.refunds
    methods := methodTable s.methods
    sequence := s.sequence }
  store := storeTable s.stored

/-- The order of pairs of numbers. -/
def pairLe (a b : UInt64 × UInt64) : Bool := a.1 < b.1 || (a.1 = b.1 && a.2 ≤ b.2)

end Snapshot

/-- The state as a snapshot. -/
def Sandbox.capture (s : Sandbox) : Snapshot where
  transactions :=
    s.gateway.transactions.values.mergeSort fun a b => Snapshot.pairLe a.key b.key
  refunds :=
    s.gateway.refunds.values.flatten.mergeSort fun a b =>
      Snapshot.pairLe (a.space, a.id) (b.space, b.id)
  methods :=
    s.gateway.methods.values.flatten.mergeSort fun a b =>
      Snapshot.pairLe (a.space, a.id) (b.space, b.id)
  stored := s.store.values.mergeSort fun a b => decide (a.id ≤ b.id)
  sequence := s.gateway.sequence

/-- A state without anything in it. -/
def Sandbox.empty : Sandbox := Snapshot.empty.restore

end ShopPayments
