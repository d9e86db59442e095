import ShopPayments.Proofs.Snapshot.RoundTrip

/-!
# Numbers of refunds

A refund that is created takes the number after the last one, and a call that fails takes none.
The last number is captured together with the refunds, so along calls and reloads in any order no
number is used twice, and the refunds of a transaction stay in the order in which they were created,
behind those of the start.
-/

namespace ShopPayments
namespace Gateway

/-- All refunds, of whatever transaction. -/
def recorded (g : Gateway) : List Refund := g.refunds.values.flatten

theorem mem_recorded {g : Gateway} {space id : UInt64} {r : Refund}
    (h : r ∈ g.refundsOf space id) : r ∈ g.recorded := Table.mem_flatten_values h

/-- What a call creates depends on the last number and on the transaction. -/
theorem created_congr {g g' : Gateway} {space : UInt64} {request : RefundRequest}
    (hsequence : g'.sequence = g.sequence)
    (ht : g'.transaction? space request.transaction = g.transaction? space request.transaction) :
    g'.created space request = g.created space request := by
  have hparallel : Parallel (fun x y ↦ x.1 = y.1) (g'.createRefund space request)
      (g.createRefund space request) := by
    unfold createRefund nextId transaction
    rw [hsequence, ht]
    apply Parallel.step
    intro id _
    apply Parallel.step
    intro t _
    apply Parallel.step
    intro booking _
    exact .pure rfl
  unfold created
  generalize g'.createRefund space request = x, g.createRefund space request = y at hparallel ⊢
  cases hparallel with
  | ok hrefund => exact congrArg ([·]) hrefund
  | error cause => rfl

namespace Booked

variable {g after : Gateway} {space : UInt64} {request : RefundRequest} {t : Transaction}
  {total : Decimal} {refund : Refund}

theorem perm_recorded (h : g.Booked space request t total refund after) :
    after.recorded.Perm (g.recorded ++ [refund]) := by
  rw [h.after_eq]
  exact Table.perm_flatten_values_append g.refunds (space, request.transaction) refund

end Booked
end Gateway

/-! ## Numbers in a row -/

/-- The refunds have the numbers that follow the given one, in a row. -/
def NumberedFrom (first : UInt64) (refunds : List Refund) : Prop :=
  refunds.map (·.id.toNat) = List.range' (first.toNat + 1) refunds.length

namespace NumberedFrom

variable {first : UInt64} {refunds : List Refund}

theorem append (h : NumberedFrom first refunds) {refund : Refund}
    (hid : refund.id.toNat = first.toNat + refunds.length + 1) :
    NumberedFrom first (refunds ++ [refund]) := by
  unfold NumberedFrom at *
  rw [List.map_append, h, List.length_append, List.length_singleton, List.range'_1_concat,
    List.map_singleton, hid]
  congr 2
  omega

theorem getElem (h : NumberedFrom first refunds) {k : ℕ} (hk : k < refunds.length) :
    refunds[k].id.toNat = first.toNat + (k + 1) := by
  have hmap := List.getElem_of_eq h (i := k) (by simpa using hk)
  rw [List.getElem_map, List.getElem_range'] at hmap
  omega

theorem bounds (h : NumberedFrom first refunds) {refund : Refund} (hrefund : refund ∈ refunds) :
    first.toNat < refund.id.toNat ∧ refund.id.toNat ≤ first.toNat + refunds.length := by
  obtain ⟨k, hk, rfl⟩ := List.getElem_of_mem hrefund
  have hid := h.getElem hk
  omega

theorem pairwise (h : NumberedFrom first refunds) : refunds.Pairwise (·.id < ·.id) := by
  have hmap : (refunds.map (·.id.toNat)).Pairwise (· < ·) := h ▸ List.pairwise_lt_range'
  exact (List.pairwise_map.mp hmap).imp UInt64.lt_iff_toNat_lt.mpr

end NumberedFrom

/-! ## Reloads -/

theorem Snapshot.perm_recorded_restore (snapshot : Snapshot) :
    snapshot.restore.gateway.recorded.Perm snapshot.refunds :=
  Table.perm_flatten_values_foldl_append Refund.key snapshot.refunds .empty

namespace Sandbox

theorem perm_recorded_restore_capture (s : Sandbox) :
    s.capture.restore.gateway.recorded.Perm s.gateway.recorded :=
  s.capture.perm_recorded_restore.trans (List.mergeSort_perm _ _)

/-- Refunds that stand in the order of their ids, behind refunds with lower ids, stay there. -/
theorem mergeSort_append_of_lt {older created : List Refund}
    (hlt : ∀ r ∈ older, ∀ r' ∈ created, r.id < r'.id) (hcreated : created.Pairwise (·.id < ·.id)) :
    (older ++ created).mergeSort (fun a b ↦ decide (a.id ≤ b.id)) =
      older.mergeSort (fun a b ↦ decide (a.id ≤ b.id)) ++ created := by
  rw [Sorting.mergeSort_append]
  · congr 1
    apply List.mergeSort_of_pairwise
    exact hcreated.imp fun h ↦ decide_eq_true (UInt64.le_of_lt h)
  · intro a b c hab hbc
    exact decide_eq_true (UInt64.le_trans (of_decide_eq_true hab) (of_decide_eq_true hbc))
  · intro a b
    rw [Bool.or_eq_true, decide_eq_true_iff, decide_eq_true_iff]
    exact UInt64.le_total a.id b.id
  · intro r hr r' hr'
    exact decide_eq_true (UInt64.le_of_lt (hlt r hr r' hr'))

/-! ## Runs -/

/-- The states that calls to refund and reloads lead to from a state, with the refunds created on
the way in their order.  Tables list their entries in any order at any time. -/
inductive Runs (start : Sandbox) : List Refund → Sandbox → Prop where
  | start : Runs start [] start
  | called {log : List Refund} {s : Sandbox} (h : Runs start log s) (space : UInt64)
    (request : RefundRequest) :
    Runs start (log ++ s.gateway.created space request)
      { s with gateway := s.gateway.call space request }
  | reloaded {log : List Refund} {s : Sandbox} (h : Runs start log s) :
    Runs start log s.capture.restore
  | relisted {log : List Refund} {s s' : Sandbox} (h : Runs start log s) (hsame : s.Relists s') :
    Runs start log s'

/-- What is recorded is what was recorded at the start and the refunds created since, which are
numbered in a row and stand behind the refunds of the start. -/
structure Numbers (start : Sandbox) (log : List Refund) (s : Sandbox) : Prop where
  keyed : s.Keyed
  toNat_sequence : s.gateway.sequence.toNat = start.gateway.sequence.toNat + log.length
  numbered : NumberedFrom start.gateway.sequence log
  recorded : s.gateway.recorded.Perm (start.gateway.recorded ++ log)
  refundsOf : ∀ space id, ∃ older, older.Perm (start.gateway.refundsOf space id) ∧
    s.gateway.refundsOf space id = older ++ log.filter (·.key = (space, id))

/-- The ids of the recorded refunds are at most the number of the last one. -/
def Bounded (s : Sandbox) : Prop := ∀ r ∈ s.gateway.recorded, r.id ≤ s.gateway.sequence

namespace Numbers

variable {start s : Sandbox} {log : List Refund}

theorem refl (hkeyed : start.Keyed) : start.Numbers [] start where
  keyed := hkeyed
  toNat_sequence := rfl
  numbered := rfl
  recorded := by rw [List.append_nil]
  refundsOf := fun space id ↦ ⟨start.gateway.refundsOf space id, .refl _, (List.append_nil _).symm⟩

/-- The refunds of the start have lower ids than those created since. -/
theorem lt_of_mem (h : start.Numbers log s) (hbounded : start.Bounded) {r r' : Refund}
    (hr : r ∈ start.gateway.recorded) (hr' : r' ∈ log) : r.id < r'.id := by
  have hle := UInt64.le_iff_toNat_le.mp (hbounded r hr)
  exact UInt64.lt_iff_toNat_lt.mpr (hle.trans_lt (h.numbered.bounds hr').1)

theorem lt_of_mem_older (h : start.Numbers log s) (hbounded : start.Bounded) {space id : UInt64}
    {older : List Refund} (holder : older.Perm (start.gateway.refundsOf space id)) :
    ∀ r ∈ older, ∀ r' ∈ log.filter (·.key = (space, id)), r.id < r'.id := by
  intro r hr r' hr'
  have hstart := Gateway.mem_recorded (holder.mem_iff.mp hr)
  exact h.lt_of_mem hbounded hstart (List.mem_filter.mp hr').1

theorem bounded (h : start.Numbers log s) (hbounded : start.Bounded) : s.Bounded := by
  intro r hr
  have hsequence := h.toNat_sequence
  rw [UInt64.le_iff_toNat_le]
  rcases List.mem_append.mp (h.recorded.mem_iff.mp hr) with hold | hnew
  · have hle := UInt64.le_iff_toNat_le.mp (hbounded r hold)
    omega
  · have hid := (h.numbered.bounds hnew).2
    omega

theorem nodup (h : start.Numbers log s) (hbounded : start.Bounded)
    (hnodup : (start.gateway.recorded.map (·.id)).Nodup) :
    (s.gateway.recorded.map (·.id)).Nodup := by
  rw [(h.recorded.map _).nodup_iff, List.map_append, List.nodup_append]
  refine ⟨hnodup, List.pairwise_map.mpr (h.numbered.pairwise.imp UInt64.ne_of_lt), ?_⟩
  intro id hid id' hid'
  obtain ⟨r, hr, rfl⟩ := List.mem_map.mp hid
  obtain ⟨r', hr', rfl⟩ := List.mem_map.mp hid'
  exact UInt64.ne_of_lt (h.lt_of_mem hbounded hr hr')

theorem booked (h : start.Numbers log s) {space : UInt64} {request : RefundRequest}
    {t : Transaction} {total : Decimal} {refund : Refund} {after : Gateway}
    (hbooked : s.gateway.Booked space request t total refund after) :
    start.Numbers (log ++ [refund]) { s with gateway := after } where
  keyed := h.keyed.booked hbooked
  toNat_sequence := by
    rw [hbooked.toNat_sequence_after, h.toNat_sequence, List.length_append, List.length_singleton,
      Nat.add_assoc]
  numbered := by
    apply h.numbered.append
    rw [hbooked.id_eq, hbooked.toNat_sequence_after, h.toNat_sequence]
  recorded := by
    rw [← List.append_assoc]
    exact hbooked.perm_recorded.trans (h.recorded.append_right [refund])
  refundsOf := by
    intro space' id
    obtain ⟨older, holder, hrefunds⟩ := h.refundsOf space' id
    have hkey : refund.key = (space, request.transaction) := by
      rw [hbooked.refund_eq]
      exact h.keyed.transactions _ t hbooked.found
    refine ⟨older, holder, ?_⟩
    rw [hbooked.refundsOf_after, List.filter_append, ← List.append_assoc, ← hrefunds, ← hkey]
    split
    next hsame => rw [List.filter_cons_of_pos (by simpa using hsame), List.filter_nil]
    next hother =>
      rw [List.filter_cons_of_neg (by simpa using hother), List.filter_nil, List.append_nil]

theorem called (h : start.Numbers log s) (space : UInt64) (request : RefundRequest) :
    start.Numbers (log ++ s.gateway.created space request)
      { s with gateway := s.gateway.call space request } := by
  rcases s.gateway.created_cases space request with
    ⟨hnone, hsame⟩ | ⟨t, total, refund, hcreated, hbooked⟩
  · rw [hnone, hsame, List.append_nil]
    exact h
  · rw [hcreated]
    exact h.booked hbooked

theorem reloaded (h : start.Numbers log s) (hbounded : start.Bounded) :
    start.Numbers log s.capture.restore where
  keyed := keyed_restore s.capture
  toNat_sequence := h.toNat_sequence
  numbered := h.numbered
  recorded := s.perm_recorded_restore_capture.trans h.recorded
  refundsOf := by
    intro space id
    obtain ⟨older, holder, hrefunds⟩ := h.refundsOf space id
    -- Sorting moves no refund across the boundary: the ids behind it are higher.
    rw [refundsOf_restore_capture h.keyed, hrefunds]
    exact ⟨_, (List.mergeSort_perm older _).trans holder,
      mergeSort_append_of_lt (h.lt_of_mem_older hbounded holder) (h.numbered.pairwise.filter _)⟩

theorem relisted (h : start.Numbers log s) {s' : Sandbox} (hsame : s.Relists s') :
    start.Numbers log s' where
  keyed := h.keyed.relisted hsame
  toNat_sequence := by rw [← hsame.sequence, h.toNat_sequence]
  numbered := h.numbered
  recorded := (Table.perm_flatten_values hsame.refunds).symm.trans h.recorded
  refundsOf := by
    intro space id
    rw [hsame.refundsOf_eq]
    exact h.refundsOf space id

end Numbers

theorem Runs.numbers {start s : Sandbox} {log : List Refund} (h : start.Runs log s)
    (hkeyed : start.Keyed) (hbounded : start.Bounded) : start.Numbers log s := by
  induction h with
  | start => exact .refl hkeyed
  | called _ space request ih => exact ih.called space request
  | reloaded _ ih => exact ih.reloaded hbounded
  | relisted _ hsame ih => exact ih.relisted hsame

/-- **No number of a refund is used twice.**  Where the refunds of a snapshot have different ids, at
most the number of its last refund, every run of calls and reloads keeps it so: the refunds it
creates take the numbers that follow, one by one, and stand in this order behind the older refunds
of their transactions. -/
theorem runs_refund_ids (snapshot : Snapshot) (hnodup : (snapshot.refunds.map (·.id)).Nodup)
    (hbound : ∀ r ∈ snapshot.refunds, r.id ≤ snapshot.sequence) {log : List Refund} {s : Sandbox}
    (h : snapshot.restore.Runs log s) :
    s.gateway.recorded.Perm (snapshot.refunds ++ log) ∧
      (s.gateway.recorded.map (·.id)).Nodup ∧
      (∀ r ∈ s.gateway.recorded, r.id ≤ s.gateway.sequence) ∧
      s.gateway.sequence.toNat = snapshot.sequence.toNat + log.length ∧
      (∀ k (hk : k < log.length), log[k].id.toNat = snapshot.sequence.toNat + (k + 1)) ∧
      ∀ space id, ∃ older created, s.gateway.refundsOf space id = older ++ created ∧
        older.Perm (snapshot.restore.gateway.refundsOf space id) ∧
        created = log.filter (·.key = (space, id)) ∧
        created.Pairwise (·.id < ·.id) ∧ ∀ r ∈ older, ∀ r' ∈ created, r.id < r'.id := by
  have hperm := snapshot.perm_recorded_restore
  have hbounded : snapshot.restore.Bounded := fun r hr ↦ hbound r (hperm.mem_iff.mp hr)
  have hnumbers := h.numbers (keyed_restore snapshot) hbounded
  refine ⟨hnumbers.recorded.trans (hperm.append_right log), ?_, hnumbers.bounded hbounded,
    hnumbers.toNat_sequence, fun k hk ↦ hnumbers.numbered.getElem hk, ?_⟩
  · exact hnumbers.nodup hbounded ((hperm.map _).nodup_iff.mpr hnodup)
  · intro space id
    obtain ⟨older, holder, hrefunds⟩ := hnumbers.refundsOf space id
    exact ⟨older, _, hrefunds, holder, rfl, hnumbers.numbered.pairwise.filter _,
      hnumbers.lt_of_mem_older hbounded holder⟩

/-! ## A reload between two refunds -/

/-- A refund in the second one of two spaces. -/
def refundedOnce : Sandbox :=
  { twoSpaces.restore with
    gateway := twoSpaces.restore.gateway.call 2
      (Gateway.hatAndSockRequest (some (.ofUInt32 20)) []) }

/-- After a reload, a refund in the first one of the two spaces. -/
def refundedTwice : Sandbox :=
  { refundedOnce.capture.restore with
    gateway := refundedOnce.capture.restore.gateway.call 1
      (Gateway.hatAndSockRequest (some (.ofUInt32 5)) []) }

theorem runs_refundedOnce : twoSpaces.restore.Runs [smallRefund 2 6 20] refundedOnce := by
  have hcreated : twoSpaces.restore.gateway.created 2
      (Gateway.hatAndSockRequest (some (.ofUInt32 20)) []) = [smallRefund 2 6 20] := by
    decide +kernel
  have h : twoSpaces.restore.Runs _ refundedOnce := .called .start 2 _
  rw [hcreated] at h
  exact h

theorem runs_refundedTwice :
    twoSpaces.restore.Runs [smallRefund 2 6 20, smallRefund 1 7 5] refundedTwice := by
  have hkeyed : refundedOnce.Keyed := (keyed_restore twoSpaces).createRefund 2 _
  have hreloaded : refundedOnce.capture.restore.gateway.created 1
      (Gateway.hatAndSockRequest (some (.ofUInt32 5)) []) =
        refundedOnce.gateway.created 1 (Gateway.hatAndSockRequest (some (.ofUInt32 5)) []) :=
    Gateway.created_congr rfl (transaction?_restore_capture hkeyed 1 42)
  have hcreated : refundedOnce.gateway.created 1
      (Gateway.hatAndSockRequest (some (.ofUInt32 5)) []) = [smallRefund 1 7 5] := by
    decide +kernel
  have h := runs_refundedOnce.reloaded.called 1 (Gateway.hatAndSockRequest (some (.ofUInt32 5)) [])
  rw [hreloaded, hcreated] at h
  exact h

/-- The refund in the first space stands behind the two that were there, which a reload sorts. -/
theorem runs_refund_ids_refundedTwice :
    (refundedTwice.gateway.recorded.map (·.id)).Perm [5, 3, 2, 6, 7] ∧
      refundedTwice.gateway.sequence.toNat = 7 ∧
      ∃ older, (refundedTwice.gateway.refundsOf 1 42).map (·.id) = older ++ [7] ∧
        older.Perm [5, 2] := by
  obtain ⟨hrecorded, -, -, hsequence, -, hrefunds⟩ :=
    runs_refund_ids twoSpaces (by decide) (by decide) runs_refundedTwice
  obtain ⟨older, created, hof, holder, rfl, -⟩ := hrefunds 1 42
  refine ⟨hrecorded.map (·.id), hsequence, older.map (·.id), ?_, ?_⟩
  · rw [hof, List.map_append]
    rfl
  · exact holder.map (·.id)

end Sandbox
end ShopPayments
