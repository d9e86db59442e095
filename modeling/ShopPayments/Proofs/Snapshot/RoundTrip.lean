import ShopPayments.Proofs.Snapshot.Keys
import ShopPayments.Proofs.Sorting

/-!
# Capturing and restoring

Restoring what was captured gives back every transaction, every stored payment method and the
number of the last refund, and the refunds of a transaction and the payment methods of a space
sorted by their ids, those with one id in their former order.
-/

namespace ShopPayments

/-! ## Tables of sorted values -/

namespace Table

variable {κ α : Type} [DecidableEq κ] {f : α → κ} {le le' : α → α → Bool}

/-- Storing the values of a table again, sorted in any way, gives back each of them. -/
theorem KeyedBy.get?_foldl_insert_mergeSort {t : Table κ α} (h : t.KeyedBy f)
    (trans : ∀ a b c, le a b = true → le b c = true → le a c = true)
    (total : ∀ a b, (le a b || le b a) = true) (key : κ) :
    ((t.values.mergeSort le).foldl (fun t a ↦ t.insert (f a) a) empty).get? key = t.get? key := by
  rw [get?_foldl_insert, Sorting.filter_mergeSort trans total, h.filter_values, get?_empty,
    Option.or_none]
  cases t.get? key <;> simp

/-- Appending the values of a table again, sorted in a way that ranks the values of one list by
`le'`, gives back each list ranked by `le'`. -/
theorem GroupedBy.getD_get?_foldl_append_mergeSort {t : Table κ (List α)} (h : t.GroupedBy f)
    (trans : ∀ a b c, le a b = true → le b c = true → le a c = true)
    (total : ∀ a b, (le a b || le b a) = true) (key : κ)
    (hrank : ∀ a b, f a = key → f b = key → le a b = le' a b) :
    (((t.values.flatten.mergeSort le).foldl (fun t a ↦ t.append (f a) a) empty).get? key).getD [] =
      ((t.get? key).getD []).mergeSort le' := by
  rw [getD_get?_foldl_append, Sorting.filter_mergeSort trans total, h.filter_values, get?_empty,
    Option.getD_none, List.nil_append]
  apply Sorting.mergeSort_congr
  intro a ha b hb
  exact hrank a b (h key a ha) (h key b hb)

/-- The table with its entries listed backwards. -/
def reversed (t : Table κ α) : Table κ α :=
  ⟨t.entries.reverse, by rw [List.map_reverse]; exact List.nodup_reverse.mpr t.nodup⟩

omit [DecidableEq κ] in
theorem perm_reversed (t : Table κ α) : t.entries.Perm t.reversed.entries :=
  (List.reverse_perm _).symm

end Table

/-! ## Orders of snapshots -/

namespace Snapshot

theorem pairLe_iff {a b : UInt64 × UInt64} :
    pairLe a b = true ↔ a.1 < b.1 ∨ a.1 = b.1 ∧ a.2 ≤ b.2 := by
  simp [pairLe]

variable {α : Type} (rank : α → UInt64 × UInt64)

theorem pairLe_trans (a b c : α) (hab : pairLe (rank a) (rank b) = true)
    (hbc : pairLe (rank b) (rank c) = true) : pairLe (rank a) (rank c) = true := by
  rw [pairLe_iff] at *
  grind

theorem pairLe_total (a b : α) :
    (pairLe (rank a) (rank b) || pairLe (rank b) (rank a)) = true := by
  rw [Bool.or_eq_true, pairLe_iff, pairLe_iff]
  grind

theorem pairLe_of_fst_eq {space space' id id' : UInt64} (h : space = space') :
    pairLe (space, id) (space', id') = decide (id ≤ id') := by
  simp [pairLe, h]

end Snapshot

/-! ## States -/

namespace Sandbox

open Snapshot

variable {s : Sandbox}

theorem transaction?_restore_capture (h : s.Keyed) (space id : UInt64) :
    s.capture.restore.gateway.transaction? space id = s.gateway.transaction? space id :=
  h.transactions.get?_foldl_insert_mergeSort (pairLe_trans Transaction.key)
    (pairLe_total Transaction.key) (space, id)

theorem refundsOf_restore_capture (h : s.Keyed) (space id : UInt64) :
    s.capture.restore.gateway.refundsOf space id =
      (s.gateway.refundsOf space id).mergeSort fun a b ↦ decide (a.id ≤ b.id) := by
  let rank (r : Refund) : UInt64 × UInt64 := (r.space, r.id)
  apply h.refunds.getD_get?_foldl_append_mergeSort (pairLe_trans rank) (pairLe_total rank)
  intro a b ha hb
  exact pairLe_of_fst_eq (congrArg Prod.fst (ha.trans hb.symm))

theorem methodsOf_restore_capture (h : s.Keyed) (space : UInt64) :
    s.capture.restore.gateway.methodsOf space =
      (s.gateway.methodsOf space).mergeSort fun a b ↦ decide (a.id ≤ b.id) := by
  let rank (m : PaymentMethod) : UInt64 × UInt64 := (m.space, m.id)
  apply h.methods.getD_get?_foldl_append_mergeSort (pairLe_trans rank) (pairLe_total rank)
  intro a b ha hb
  exact pairLe_of_fst_eq (ha.trans hb.symm)

theorem get?_store_restore_capture (h : s.Keyed) (id : String) :
    s.capture.restore.store.get? id = s.store.get? id :=
  h.stored.get?_foldl_insert_mergeSort (Sorting.textLe_trans _) (Sorting.textLe_total _) id

/-- **A snapshot of any state that a snapshot and calls lead to loses nothing**: restored, every
transaction, every stored method and the number of the last refund are the same, and the refunds of
a transaction and the methods of a space are the same in the stable order of their ids. -/
theorem restore_capture {s' : Sandbox} (h : s.Reached) (hrestored : s.capture.restore.Relists s') :
    (∀ space id, s'.gateway.transaction? space id = s.gateway.transaction? space id) ∧
      (∀ space id, s'.gateway.refundsOf space id =
        (s.gateway.refundsOf space id).mergeSort fun a b ↦ decide (a.id ≤ b.id)) ∧
      (∀ space, s'.gateway.methodsOf space =
        (s.gateway.methodsOf space).mergeSort fun a b ↦ decide (a.id ≤ b.id)) ∧
      (∀ id, s'.store.get? id = s.store.get? id) ∧ s'.gateway.sequence = s.gateway.sequence := by
  refine ⟨fun space id ↦ ?_, fun space id ↦ ?_, fun space ↦ ?_, fun id ↦ ?_, ?_⟩
  · rw [hrestored.transaction?_eq, transaction?_restore_capture h.keyed]
  · rw [hrestored.refundsOf_eq, refundsOf_restore_capture h.keyed]
  · rw [hrestored.methodsOf_eq, methodsOf_restore_capture h.keyed]
  · rw [hrestored.get?_store_eq, get?_store_restore_capture h.keyed]
  · exact hrestored.sequence.symm

/-! ## A transaction id in two spaces -/

/-- The state with the entries of all tables listed backwards. -/
def reversed (s : Sandbox) : Sandbox where
  gateway := {
    transactions := s.gateway.transactions.reversed
    refunds := s.gateway.refunds.reversed
    methods := s.gateway.methods.reversed
    sequence := s.gateway.sequence }
  store := s.store.reversed

theorem relists_reversed (s : Sandbox) : s.Relists s.reversed where
  transactions := s.gateway.transactions.perm_reversed
  refunds := s.gateway.refunds.perm_reversed
  methods := s.gateway.methods.perm_reversed
  stored := s.store.perm_reversed
  sequence := rfl

/-- A refund of transaction 42. -/
def smallRefund (space id : UInt64) (amount : UInt32) : Refund :=
  ⟨id, space, 42, .successful, .ofUInt32 amount, "refund_token", []⟩

/-- Transaction 42 in two spaces, the refunds of the first one not in the order of their ids. -/
def twoSpaces : Snapshot where
  transactions := [hatAndSock, { hatAndSock with space := 2 }]
  refunds := [smallRefund 1 5 10, smallRefund 2 3 10, smallRefund 1 2 10]
  methods := [⟨11, 1, "Invoice", .active, 1⟩, ⟨20, 2, "Card", .active, 1⟩,
    ⟨10, 1, "Card", .active, 2⟩]
  stored := [⟨StoredMethod.idFor 1 99, 99, 1, "Voucher", 0, true⟩]
  sequence := 5

/-- Two spaces after a refund in the second one. -/
def refundedSpace : Sandbox :=
  twoSpaces.restore.reversed.after
    (.createRefund 2 (Gateway.hatAndSockRequest (some (.ofUInt32 20)) []))

theorem reached_refundedSpace : refundedSpace.Reached :=
  ((Reached.restored twoSpaces).relisted (relists_reversed _)).called _

theorem restore_capture_twoSpaces :
    let busy := refundedSpace.after (.synchronize 1)
    let restored := busy.capture.restore.reversed
    restored.gateway.refundsOf 1 42 = [smallRefund 1 2 10, smallRefund 1 5 10] ∧
      restored.gateway.refundsOf 2 42 = [smallRefund 2 3 10, smallRefund 2 6 20] ∧
      (restored.gateway.methodsOf 1).map (·.id) = [10, 11] ∧
      restored.gateway.transaction? 2 42 =
        some { hatAndSock with space := 2, refunded := .ofUInt32 20 } ∧
      restored.store.get? (StoredMethod.idFor 1 99) =
        some ⟨StoredMethod.idFor 1 99, 99, 1, "Voucher", 0, false⟩ ∧
      restored.gateway.sequence = 6 := by
  intro busy restored
  obtain ⟨htransaction, hrefunds, hmethods, hstore, hsequence⟩ :=
    restore_capture (reached_refundedSpace.called (.synchronize 1)) (relists_reversed _)
  have hfirst : busy.gateway.refundsOf 1 42 = [smallRefund 1 5 10, smallRefund 1 2 10] := by
    decide +kernel
  have hsecond : busy.gateway.refundsOf 2 42 = [smallRefund 2 3 10, smallRefund 2 6 20] := by
    decide +kernel
  have hoffered : busy.gateway.methodsOf 1 =
      [⟨11, 1, "Invoice", .active, 1⟩, ⟨10, 1, "Card", .active, 2⟩] := by decide +kernel
  refine ⟨?_, ?_, ?_, ?_, ?_, ?_⟩
  · rw [hrefunds, hfirst]
    simp [List.mergeSort, smallRefund]
  · rw [hrefunds, hsecond]
    simp [List.mergeSort, smallRefund]
  · rw [hmethods, hoffered]
    simp [List.mergeSort]
  · rw [htransaction]
    decide +kernel
  · rw [hstore]
    refine MethodStore.get?_synchronize_of_not_offered reached_refundedSpace.keyed.stored
      (m := ⟨StoredMethod.idFor 1 99, 99, 1, "Voucher", 0, true⟩) ?_ rfl ?_ <;> decide +kernel
  · rw [hsequence]
    decide +kernel

end Sandbox
end ShopPayments
