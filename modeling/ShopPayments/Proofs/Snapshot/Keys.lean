import ShopPayments.Proofs.Gateway.Conservation
import ShopPayments.Proofs.Gateway.Keys
import ShopPayments.Proofs.PaymentMethod.Synchronization

/-!
# Values under their own keys

A snapshot lists values without the keys they were stored under and is restored by the keys that
the values themselves give.  These are the same keys in every state that a snapshot, calls of the
gateway and writes of the shop lead to, in whatever order the tables list their entries meanwhile.
-/

namespace ShopPayments
namespace Sandbox

/-- Every value is stored under the key that its own fields give. -/
structure Keyed (s : Sandbox) : Prop where
  transactions : s.gateway.transactions.KeyedBy Transaction.key
  refunds : s.gateway.refunds.GroupedBy Refund.key
  methods : s.gateway.methods.GroupedBy PaymentMethod.space
  stored : s.store.KeyedBy StoredMethod.id

theorem keyed_restore (snapshot : Snapshot) : snapshot.restore.Keyed where
  transactions := Table.keyedBy_empty.foldl_insert snapshot.transactions
  refunds := Table.groupedBy_empty.foldl_append snapshot.refunds
  methods := Table.groupedBy_empty.foldl_append snapshot.methods
  stored := MethodStore.keyedBy_foldl_store Table.keyedBy_empty snapshot.stored

/-! ## Calls -/

/-- What changes a state. -/
inductive Call where
  | createRefund (space : UInt64) (request : RefundRequest)
  | insertTransaction (t : Transaction)
  | store (m : StoredMethod)
  | synchronize (space : UInt64)

/-- The state after a call; a failing call changes nothing. -/
def after (s : Sandbox) : Call → Sandbox
  | .createRefund space request => { s with gateway := s.gateway.call space request }
  | .insertTransaction t => { s with gateway := s.gateway.insertTransaction t }
  | .store m => { s with store := s.store.store m }
  | .synchronize space =>
    { s with store := (s.store.synchronize space (s.gateway.methodsOf space)).2 }

/-- A refund that is booked on a transaction under its own key is stored under its own key. -/
theorem Keyed.booked {s : Sandbox} (h : s.Keyed) {space : UInt64} {request : RefundRequest}
    {t : Transaction} {total : Decimal} {refund : Refund} {after : Gateway}
    (hbooked : s.gateway.Booked space request t total refund after) :
    { s with gateway := after : Sandbox }.Keyed := by
  have hkey : t.key = (space, request.transaction) := h.transactions _ t hbooked.found
  have hrefund : refund.key = (space, request.transaction) := by
    rw [hbooked.refund_eq]
    exact hkey
  rw [hbooked.after_eq, ← hkey]
  constructor
  · exact h.transactions.insert { t with refunded := total }
  · rw [hkey, ← hrefund]
    exact h.refunds.append refund
  · exact h.methods
  · exact h.stored

theorem Keyed.createRefund {s : Sandbox} (h : s.Keyed) (space : UInt64)
    (request : RefundRequest) :
    { s with gateway := s.gateway.call space request : Sandbox }.Keyed := by
  rcases s.gateway.call_cases space request with hsame | ⟨t, total, refund, hbooked⟩
  · rw [hsame]
    exact h
  · exact h.booked hbooked

theorem Keyed.after {s : Sandbox} (h : s.Keyed) (c : Call) : (s.after c).Keyed := by
  cases c with
  | createRefund space request => exact h.createRefund space request
  | insertTransaction t => exact { h with transactions := h.transactions.insert t }
  | store m => exact { h with stored := MethodStore.keyedBy_store h.stored m }
  | synchronize space =>
    exact { h with stored := MethodStore.keyedBy_synchronize h.stored space _ }

/-! ## Orders of the entries -/

/-- Two states whose tables have the same entries, listed in any order. -/
structure Relists (s s' : Sandbox) : Prop where
  transactions : s.gateway.transactions.entries.Perm s'.gateway.transactions.entries
  refunds : s.gateway.refunds.entries.Perm s'.gateway.refunds.entries
  methods : s.gateway.methods.entries.Perm s'.gateway.methods.entries
  stored : s.store.entries.Perm s'.store.entries
  sequence : s.gateway.sequence = s'.gateway.sequence

theorem Keyed.relisted {s s' : Sandbox} (h : s.Keyed) (hsame : s.Relists s') : s'.Keyed where
  transactions := h.transactions.congr hsame.transactions
  refunds := h.refunds.congr hsame.refunds
  methods := h.methods.congr hsame.methods
  stored := h.stored.congr hsame.stored

namespace Relists

variable {s s' : Sandbox}

theorem transaction?_eq (h : s.Relists s') (space id : UInt64) :
    s'.gateway.transaction? space id = s.gateway.transaction? space id :=
  (Table.get?_congr h.transactions _).symm

theorem refundsOf_eq (h : s.Relists s') (space id : UInt64) :
    s'.gateway.refundsOf space id = s.gateway.refundsOf space id :=
  congrArg (·.getD []) (Table.get?_congr h.refunds _).symm

theorem methodsOf_eq (h : s.Relists s') (space : UInt64) :
    s'.gateway.methodsOf space = s.gateway.methodsOf space :=
  congrArg (·.getD []) (Table.get?_congr h.methods _).symm

theorem get?_store_eq (h : s.Relists s') (id : String) : s'.store.get? id = s.store.get? id :=
  (Table.get?_congr h.stored _).symm

end Relists

/-- The states that restoring a snapshot and calls lead to, with the entries of the tables in any
order at any time. -/
inductive Reached : Sandbox → Prop where
  | restored (snapshot : Snapshot) : Reached snapshot.restore
  | called {s : Sandbox} (h : Reached s) (c : Call) : Reached (s.after c)
  | relisted {s s' : Sandbox} (h : Reached s) (hsame : s.Relists s') : Reached s'

theorem Reached.keyed {s : Sandbox} (h : s.Reached) : s.Keyed := by
  induction h with
  | restored snapshot => exact keyed_restore snapshot
  | called _ c ih => exact ih.after c
  | relisted _ hsame ih => exact ih.relisted hsame

end Sandbox
end ShopPayments
