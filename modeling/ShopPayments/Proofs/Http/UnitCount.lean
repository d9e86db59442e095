import ShopPayments.Proofs.Http.AllOrNothing
import ShopPayments.Proofs.Snapshot.RoundTrip

/-!
# The count of units over requests

Requests are handled one after another, and between them the state may be captured and restored.
Whatever their sequence is, the units left of a line item are those left at the start without the
units of the requests that were answered with status 204, each of which recorded exactly the units
that it asked for.  No count on the way overflows.
-/

namespace ShopPayments

/-- No more units of a line item were given back than its quantity. -/
def Gateway.UnitsFit (g : Gateway) : Prop :=
  ∀ space id t, g.transaction? space id = some t → ∀ item itemId, t.item? itemId = some item →
    takenUnits (g.refundsOf space id) itemId ≤ item.quantity.toNat

namespace Http

/-! ## One request -/

/-- The units of a line item that a request asks for. -/
def Request.unitsBody? (r : Request) : Option UnitsBody :=
  if Endpoint.at? (pathOf r.path) = some .units then
    (Json.parse r.body : Except Misread UnitsBody).toOption
  else none

/-- The units that a body asks for were left, and a refund of them and of nothing else was added to
the transaction that it names. -/
structure UnitsBody.Records (b : UnitsBody) (g : Gateway) (space : UInt64) (units : UInt32)
    (refund : Refund) (after : Gateway) : Prop where
  positive : 0 < b.quantity.toInt
  units_eq : (units.toNat : ℤ) = b.quantity.toInt
  refundsOf_after : ∀ s id, after.refundsOf s id =
    if (space, b.transaction) = (s, id) then g.refundsOf s id ++ [refund] else g.refundsOf s id
  state_ne : refund.state ≠ .failed
  reductions_eq : refund.reductions = [⟨b.item, units, 0⟩]
  fits : ∀ t, g.transaction? space b.transaction = some t → ∀ item, t.item? b.item = some item →
    takenUnits (g.refundsOf space b.transaction) b.item + units.toNat ≤ item.quantity.toNat

theorem UnitsBody.records_of_run {b : UnitsBody} {file : SettingsFile} {g after : Gateway}
    {token : String} (hkeyed : g.Keyed) (h : b.run file g token = .ok after) :
    ∃ settings units refund, file.resolve b.channel = .ok settings ∧
      b.Records g settings.spaceId units refund after := by
  unfold UnitsBody.run at h
  simp only [guard_eq_ok, bind_eq_ok, liftFailure_eq_ok, pure_eq_ok, Prod.exists] at h
  obtain ⟨hquantity, space, t, hload, request, hdecide, refund, after', hcreate, rfl⟩ := h
  obtain ⟨settings, hsettings, rfl, ht⟩ := load_eq_ok.mp hload
  obtain ⟨item, left, units, hunits, hitem, hleft, hfits, hnames⟩ :=
    decide_eq_ok hquantity hdecide
  obtain ⟨t', total, hbooked⟩ := Gateway.booked_of_createRefund hcreate
  have hid : request.transaction = b.transaction := hnames.transaction_eq.trans (hkeyed.id_eq ht)
  have hpositive : 0 < b.quantity.toInt := by
    rw [Int64.le_iff_toInt_le, not_le] at hquantity
    exact hquantity
  refine ⟨settings, units, refund, hsettings, hpositive, hunits, ?_, ?_, ?_, ?_⟩
  · intro s id
    rw [hbooked.refundsOf_after, hid]
  · rw [hbooked.state_eq]
    decide
  · exact hbooked.reductions_eq.trans hnames.reductions_eq
  · intro t'' ht'' item' hitem'
    obtain rfl := Option.some.inj (ht.symm.trans ht'')
    obtain rfl := Option.some.inj (hitem.symm.trans hitem')
    rw [hkeyed.id_eq ht] at hleft
    exact Transaction.takenUnits_add_le hitem hleft hfits (by omega)

theorem UnitsBody.Records.takenUnits_after {b : UnitsBody} {g after : Gateway} {space : UInt64}
    {units : UInt32} {refund : Refund} (h : b.Records g space units refund after) (s id : UInt64)
    (itemId : String) :
    takenUnits (after.refundsOf s id) itemId =
      takenUnits (g.refundsOf s id) itemId +
        if (space, b.transaction) = (s, id) ∧ b.item = itemId then units.toNat else 0 := by
  rw [h.refundsOf_after]
  by_cases hkey : (space, b.transaction) = (s, id)
  · rw [if_pos hkey, takenUnits_append, takenUnits_singleton h.state_ne h.reductions_eq]
    simp [hkey]
  · simp [hkey]

/-- A plain amount and a part of a line item give no units back. -/
theorem Endpoint.BooksAt.takenUnits_eq {endpoint : Endpoint} {g after : Gateway}
    {space id : UInt64} (h : endpoint.BooksAt g space id after) (hother : endpoint ≠ .units)
    (s i : UInt64) (itemId : String) :
    takenUnits (after.refundsOf s i) itemId = takenUnits (g.refundsOf s i) itemId := by
  obtain ⟨t, request, total, refund, -, hasks, hbooked⟩ := h
  rw [hbooked.takenUnits_after]
  cases hasks with
  | units => exact absurd rfl hother
  | amount amount left counted fits names => simp [names.reductions_eq]
  | part item amount value nonempty found priced fits names =>
    by_cases hitem : item.uniqueId = itemId <;> simp [names.reductions_eq, hitem]

/-- A request for units that is answered with status 204 records them, and no other request gives
any unit back. -/
theorem handle_units (file : SettingsFile) {g : Gateway} (hkeyed : g.Keyed) (token : String)
    (r : Request) :
    (∃ b space units refund, r.unitsBody? = some b ∧
        (handle file g token r).1.status? = some 204 ∧
        Endpoint.units.address? file r.body = some (space, b.transaction) ∧
        b.Records g space units refund (handle file g token r).2) ∨
      (r.unitsBody? = none ∨ (handle file g token r).1.status? ≠ some 204) ∧
        ∀ s id itemId, takenUnits ((handle file g token r).2.refundsOf s id) itemId =
          takenUnits (g.refundsOf s id) itemId := by
  rcases handle_eq_answer_or file g token r with
    ⟨endpoint, hendpoint, hanswer⟩ | ⟨hstatus, hsame⟩
  swap
  · exact .inr ⟨.inr hstatus, fun s id itemId ↦ by rw [hsame]⟩
  have hother (h : endpoint ≠ .units) : r.unitsBody? = none := by
    rw [Request.unitsBody?, hendpoint, if_neg]
    simpa using h
  rw [hanswer]
  cases endpoint with
  | units =>
    rcases answer_eq_or (fun (b : UnitsBody) ↦ b.run file g token) g r.body with
      ⟨b, after, hread, hrun, hanswer⟩ | ⟨hstatus, hsame⟩
    · left
      obtain ⟨settings, units, refund, hsettings, hrecords⟩ := UnitsBody.records_of_run hkeyed hrun
      have hbody : r.unitsBody? = some b := by
        rw [Request.unitsBody?, hendpoint, if_pos rfl, hread]
        rfl
      have htarget : Endpoint.units.target? r.body = some (b.channel, b.transaction) := by
        rw [Endpoint.target?, hread]
        rfl
      rw [Endpoint.answer, hanswer]
      exact ⟨b, settings.spaceId, units, refund, hbody, rfl,
        Endpoint.address?_eq_some htarget hsettings, hrecords⟩
    · exact .inr ⟨.inr hstatus, fun s id itemId ↦ by rw [Endpoint.answer, hsame]⟩
  | amount =>
    right
    refine ⟨.inl (hother (by simp)), fun s id itemId ↦ ?_⟩
    rcases answer_eq_or (fun (b : AmountBody) ↦ b.run file g token) g r.body with
      ⟨b, after, -, hrun, hanswer⟩ | ⟨-, hsame⟩
    · obtain ⟨settings, -, hbooks⟩ := AmountBody.booksAt_of_run hkeyed hrun
      rw [Endpoint.answer, hanswer]
      exact hbooks.takenUnits_eq (by simp) s id itemId
    · rw [Endpoint.answer, hsame]
  | part =>
    right
    refine ⟨.inl (hother (by simp)), fun s id itemId ↦ ?_⟩
    rcases answer_eq_or (fun (b : PartBody) ↦ b.run file g token) g r.body with
      ⟨b, after, -, hrun, hanswer⟩ | ⟨-, hsame⟩
    · obtain ⟨settings, -, rfl | hbooks⟩ := PartBody.booksAt_of_run hkeyed hrun
      · rw [Endpoint.answer, hanswer]
      · rw [Endpoint.answer, hanswer]
        exact hbooks.takenUnits_eq (by simp) s id itemId
    · rw [Endpoint.answer, hsame]

/-- The units of a line item that a request gave back: those that it asked for, if it was answered
with status 204. -/
def unitsGiven (file : SettingsFile) (space id : UInt64) (itemId : String) :
    Request × Reply → ℤ
  | (r, reply) =>
    match r.unitsBody? with
    | some b =>
      if reply.status? = some 204 ∧ Endpoint.units.address? file r.body = some (space, id) ∧
        b.item = itemId then b.quantity.toInt else 0
    | none => 0

section

variable {file : SettingsFile} {space id : UInt64} {itemId : String} {r : Request} {reply : Reply}

theorem unitsGiven_of_answered {b : UnitsBody} {key : TransactionKey}
    (hbody : r.unitsBody? = some b) (hstatus : reply.status? = some 204)
    (haddress : Endpoint.units.address? file r.body = some key) :
    unitsGiven file space id itemId (r, reply) =
      if key = (space, id) ∧ b.item = itemId then b.quantity.toInt else 0 := by
  simp [unitsGiven, hbody, hstatus, haddress]

theorem unitsGiven_eq_zero (h : r.unitsBody? = none ∨ reply.status? ≠ some 204) :
    unitsGiven file space id itemId (r, reply) = 0 := by
  rcases h with hbody | hstatus
  · simp [unitsGiven, hbody]
  · cases hbody : r.unitsBody? <;> simp [unitsGiven, hbody, hstatus]

end

variable {file : SettingsFile} {g : Gateway}

theorem takenUnits_handle (file : SettingsFile) (hkeyed : g.Keyed) (token : String) (r : Request)
    (space id : UInt64) (itemId : String) :
    (takenUnits ((handle file g token r).2.refundsOf space id) itemId : ℤ) =
      takenUnits (g.refundsOf space id) itemId +
        unitsGiven file space id itemId (r, (handle file g token r).1) := by
  rcases handle_units file hkeyed token r with
    ⟨b, s, units, refund, hbody, hstatus, haddress, hrecords⟩ | ⟨hnone, hsame⟩
  · rw [hrecords.takenUnits_after, unitsGiven_of_answered hbody hstatus haddress,
      ← hrecords.units_eq]
    push_cast
    rfl
  · rw [hsame, unitsGiven_eq_zero hnone, add_zero]

theorem unitsFit_handle (file : SettingsFile) (hkeyed : g.Keyed) (h : g.UnitsFit) (token : String)
    (r : Request) : (handle file g token r).2.UnitsFit := by
  intro space id t' ht' item itemId hitem
  obtain ⟨t, ht, hsame⟩ := (extends_handle file hkeyed token r).exists_of_some ht'
  rw [Transaction.item?_congr hsame] at hitem
  rcases handle_units file hkeyed token r with
    ⟨b, s, units, refund, -, -, -, hrecords⟩ | ⟨-, hsame⟩
  · rw [hrecords.takenUnits_after]
    split
    next hthis =>
      obtain ⟨rfl, rfl⟩ := Prod.mk.inj hthis.1
      rw [← hthis.2] at hitem ⊢
      exact hrecords.fits t ht item hitem
    next => exact h space id t ht item itemId hitem
  · rw [hsame]
    exact h space id t ht item itemId hitem

/-! ## Sequences of requests -/

/-- What became of the requests so far and the state that they lead to, one after the other, where
the state may be captured and restored at any time, with the entries of the tables in any order. -/
inductive Served (file : SettingsFile) (start : Sandbox) : List (Request × Reply) → Sandbox → Prop
  | start : Served file start [] start
  | request {log : List (Request × Reply)} {s : Sandbox} (h : Served file start log s)
      (token : String) (r : Request) :
      Served file start (log ++ [(r, (handle file s.gateway token r).1)])
        { s with gateway := (handle file s.gateway token r).2 }
  | reloaded {log : List (Request × Reply)} {s : Sandbox} (h : Served file start log s) :
      Served file start log s.capture.restore
  | relisted {log : List (Request × Reply)} {s s' : Sandbox} (h : Served file start log s)
      (hsame : s.Relists s') : Served file start log s'

/-- What holds after a sequence of requests: the transactions are those of the start up to what was
refunded of them, and the units given back are those of the requests that were answered. -/
structure CountsUnits (file : SettingsFile) (start : Sandbox) (log : List (Request × Reply))
    (s : Sandbox) : Prop where
  keyed : s.Keyed
  fits : s.gateway.UnitsFit
  transactions : ∀ space id, ∀ t, start.gateway.transaction? space id = some t →
    ∃ refunded, s.gateway.transaction? space id = some { t with refunded }
  taken : ∀ space id itemId, (takenUnits (s.gateway.refundsOf space id) itemId : ℤ) =
    takenUnits (start.gateway.refundsOf space id) itemId +
      (log.map (unitsGiven file space id itemId)).sum

namespace CountsUnits

variable {file : SettingsFile} {start s s' : Sandbox} {log : List (Request × Reply)}

theorem refl (hkeyed : start.Keyed) (hfits : start.gateway.UnitsFit) :
    CountsUnits file start [] start where
  keyed := hkeyed
  fits := hfits
  transactions := fun _ _ t ht ↦ ⟨t.refunded, ht⟩
  taken := by simp

/-- A state with the same transactions and, up to their order, the same refunds. -/
theorem congr (h : CountsUnits file start log s) (hkeyed : s'.Keyed)
    (htransactions : ∀ space id,
      s'.gateway.transaction? space id = s.gateway.transaction? space id)
    (hrefunds : ∀ space id,
      (s'.gateway.refundsOf space id).Perm (s.gateway.refundsOf space id)) :
    CountsUnits file start log s' where
  keyed := hkeyed
  fits := by
    intro space id t ht item itemId hitem
    rw [htransactions] at ht
    rw [takenUnits_perm (hrefunds space id)]
    exact h.fits space id t ht item itemId hitem
  transactions := by
    intro space id t ht
    rw [htransactions]
    exact h.transactions space id t ht
  taken := by
    intro space id itemId
    rw [takenUnits_perm (hrefunds space id)]
    exact h.taken space id itemId

theorem request (h : CountsUnits file start log s) (token : String) (r : Request) :
    CountsUnits file start (log ++ [(r, (handle file s.gateway token r).1)])
      { s with gateway := (handle file s.gateway token r).2 } := by
  have hkeyed := Gateway.keyed_iff.mpr h.keyed.transactions
  refine ⟨?_, unitsFit_handle file hkeyed h.fits token r, ?_, ?_⟩
  · rcases handle_cases file hkeyed token r with
      hsame | ⟨-, endpoint, -, space, t, request, total, refund, hbooks⟩
    · rw [hsame]
      exact h.keyed
    · exact h.keyed.booked hbooks.booked
  · intro space id t ht
    obtain ⟨refunded, hnow⟩ := h.transactions space id t ht
    obtain ⟨refunded', hnext⟩ := (extends_handle file hkeyed token r).some space id _ hnow
    exact ⟨refunded', hnext⟩
  · intro space id itemId
    rw [takenUnits_handle file hkeyed, h.taken, List.map_append, List.sum_append, add_assoc]
    simp

end CountsUnits

theorem Served.countsUnits {file : SettingsFile} {start s : Sandbox} {log : List (Request × Reply)}
    (h : Served file start log s) (hkeyed : start.Keyed) (hfits : start.gateway.UnitsFit) :
    CountsUnits file start log s := by
  induction h with
  | start => exact .refl hkeyed hfits
  | request _ token r ih => exact ih.request token r
  | @reloaded log s _ ih =>
    apply ih.congr (Sandbox.keyed_restore _)
    · exact Sandbox.transaction?_restore_capture ih.keyed
    · intro space id
      rw [Sandbox.refundsOf_restore_capture ih.keyed]
      exact List.mergeSort_perm _ _
  | relisted _ hsame ih =>
    apply ih.congr (ih.keyed.relisted hsame) hsame.transaction?_eq
    intro space id
    rw [hsame.refundsOf_eq]

/-- **Requests that are handled one after another keep an exact count of units.**  Wherever a
sequence of requests and reloads of a restored state has come to, no count overflows, the units left
of a line item are those left at the start without those of the requests answered, units that are
left fit the type of a count, and the next request that is answered records exactly the units that
it asks for. -/
theorem served_refundableUnits (file : SettingsFile) (snapshot : Snapshot)
    (hfits : snapshot.restore.gateway.UnitsFit) {log : List (Request × Reply)} {s : Sandbox}
    (h : Served file snapshot.restore log s) {space id : UInt64} {t : Transaction}
    (ht : snapshot.restore.gateway.transaction? space id = some t) {itemId : String}
    {item : TransactionItem} (hitem : t.item? itemId = some item) :
    ∃ first t' left, t.refundableUnits (snapshot.restore.gateway.refundsOf space t.id) itemId =
        .ok first ∧
      s.gateway.transaction? space id = some t' ∧ t' = { t with refunded := t'.refunded } ∧
      t'.refundableUnits (s.gateway.refundsOf space t'.id) itemId = .ok left ∧
      (left.toNat : ℤ) = first.toNat - (log.map (unitsGiven file space id itemId)).sum ∧
      (∀ quantity : Int64, 0 < quantity → quantity.toInt ≤ left.toNat →
        ((UInt32.ofNat quantity.toInt.toNat).toNat : ℤ) = quantity.toInt) ∧
      ∀ token r b, r.unitsBody? = some b →
        Endpoint.units.address? file r.body = some (space, id) → b.item = itemId →
        (handle file s.gateway token r).1.status? = some 204 →
          ∃ units refund, 0 < units.toNat ∧ (units.toNat : ℤ) = b.quantity.toInt ∧
            refund.state ≠ .failed ∧ refund.reductions = [⟨itemId, units, 0⟩] ∧
            (handle file s.gateway token r).2.refundsOf space id =
              s.gateway.refundsOf space id ++ [refund] := by
  have hcounts := h.countsUnits (Sandbox.keyed_restore snapshot) hfits
  have hkeyed := Gateway.keyed_iff.mpr hcounts.keyed.transactions
  obtain ⟨refunded, ht'⟩ := hcounts.transactions space id t ht
  have hid : t.id = id := (Gateway.keyed_restore snapshot).id_eq ht
  have hfirstFits := hfits space id t ht
  have hleftFits := hcounts.fits space id _ ht'
  have hnow : ({ t with refunded } : Transaction).item? itemId = some item := hitem
  obtain ⟨first, hfirst⟩ := Transaction.exists_refundableUnits fun item ↦ hfirstFits item itemId
  obtain ⟨left, hleft⟩ := Transaction.exists_refundableUnits fun item ↦ hleftFits item itemId
  refine ⟨first, _, left, hid ▸ hfirst, ht', rfl, hid ▸ hleft, ?_, ?_, ?_⟩
  · have htaken := hcounts.taken space id itemId
    have hfirstUnits := Transaction.toNat_of_refundableUnits hitem hfirst
    have hleftUnits := Transaction.toNat_of_refundableUnits hnow hleft
    have hfirstLe := hfirstFits item itemId hitem
    have hleftLe := hleftFits item itemId hnow
    omega
  · intro quantity hpositive hle
    have hnat : quantity.toInt.toNat ≤ left.toNat := by omega
    rw [toNat_ofNat_of_le hnat, Int.toNat_of_nonneg]
    rw [Int64.lt_iff_toInt_lt] at hpositive
    exact hpositive.le
  · intro token r b hbody haddress hasked hstatus
    rcases handle_units file hkeyed token r with
      ⟨b', space', units, refund, hbody', -, haddress', hrecords⟩ | ⟨hnone, -⟩
    · obtain rfl := Option.some.inj (hbody.symm.trans hbody')
      obtain hkey := Option.some.inj (haddress'.symm.trans haddress)
      have hunits := hrecords.units_eq
      have hpositive := hrecords.positive
      refine ⟨units, refund, by omega, hunits, hrecords.state_ne, ?_, ?_⟩
      · rw [hrecords.reductions_eq, hasked]
      · rw [hrecords.refundsOf_after, if_pos hkey]
    · exact absurd hstatus (hnone.resolve_left (by simp [hbody]))

/-! ## Four hats -/

/-- Four hats, of which one was given back. -/
def fourHats : Snapshot where
  transactions := [{ hatAndSock with
    refunded := .ofUInt32 10
    items := [{ hat with quantity := 4 }] }]
  refunds := [⟨1, 1, 42, .successful, .ofUInt32 10, "refund_token", [⟨"hat", 1, 0⟩]⟩]
  methods := []
  stored := []
  sequence := 1

/-- Two more of them were given back. -/
def oneHatLeft : Snapshot where
  transactions := [{ hatAndSock with
    refunded := .ofUInt32 30
    items := [{ hat with quantity := 4 }] }]
  refunds := fourHats.refunds ++
    [⟨2, 1, 42, .successful, .ofUInt32 20, "refund_one", [⟨"hat", 2, 0⟩]⟩]
  methods := []
  stored := []
  sequence := 2

theorem unitsFit_fourHats : fourHats.restore.gateway.UnitsFit := by
  intro space id t ht item itemId hitem
  by_cases hkey : (1, 42) = (space, id)
  · obtain ⟨rfl, rfl⟩ := Prod.mk.inj hkey
    obtain rfl := Option.some.inj ht
    by_cases hhat : "hat" = itemId
    · subst hhat
      obtain rfl := Option.some.inj hitem
      decide
    · simp [Transaction.item?, hat, hhat] at hitem
  · have hnone : fourHats.restore.gateway.transaction? space id = none := if_neg hkey
    rw [hnone] at ht
    cases ht

/-- Asks for two units of the hat. -/
def refundTwoHats : Request :=
  post "create-refund/" "\x7b\"transactionId\":42,\"quantity\":2,\"lineItemId\":\"hat\"\x7d"

/-- The four hats after two more were given back. -/
def afterTwoHats : Sandbox :=
  { fourHats.restore with
    gateway := (handle oneSpace fourHats.restore.gateway "one" refundTwoHats).2 }

theorem capture_afterTwoHats : afterTwoHats.capture = oneHatLeft := by
  have htransactions : afterTwoHats.gateway.transactions.values = oneHatLeft.transactions := by
    decide +kernel
  have hrefunds : afterTwoHats.gateway.refunds.values.flatten = oneHatLeft.refunds := by
    decide +kernel
  have hmethods : afterTwoHats.gateway.methods.values.flatten = oneHatLeft.methods := by
    decide +kernel
  have hstored : afterTwoHats.store.values = oneHatLeft.stored := rfl
  have hsequence : afterTwoHats.gateway.sequence = oneHatLeft.sequence := by decide +kernel
  unfold Sandbox.capture
  rw [htransactions, hrefunds, hmethods, hstored, hsequence,
    List.mergeSort_of_pairwise (by decide), List.mergeSort_of_pairwise (by decide),
    List.mergeSort_of_pairwise (by decide), List.mergeSort_of_pairwise (by decide)]

/-- Once the state was restored one hat is left, and it can be had. -/
theorem served_refundableUnits_fourHats :
    let s := afterTwoHats.capture.restore
    ∃ t' left, s.gateway.transaction? 1 42 = some t' ∧
      t'.refundableUnits (s.gateway.refundsOf 1 t'.id) "hat" = .ok left ∧ left = 1 ∧
      ∃ refund, refund.reductions = [⟨"hat", 1, 0⟩] ∧
        (handle oneSpace s.gateway "two" refundHat).2.refundsOf 1 42 =
          s.gateway.refundsOf 1 42 ++ [refund] := by
  intro s
  let reply := (handle oneSpace fourHats.restore.gateway "one" refundTwoHats).1
  have hserved : Served oneSpace fourHats.restore [(refundTwoHats, reply)] s :=
    .reloaded (.request .start "one" refundTwoHats)
  obtain ⟨first, t', left, hfirst, ht', -, hleft, hcount, -, hnext⟩ :=
    served_refundableUnits oneSpace fourHats unitsFit_fourHats hserved
      (rfl : fourHats.restore.gateway.transaction? 1 42 = some _)
      (by decide : Transaction.item? _ "hat" = some { hat with quantity := 4 })
  have hgiven : unitsGiven oneSpace 1 42 "hat" (refundTwoHats, reply) = 2 := by decide +kernel
  have hleftOne : left = 1 := by
    obtain rfl : 3 = first := Except.ok.inj hfirst
    rw [List.map_singleton, List.sum_singleton, hgiven] at hcount
    exact UInt32.toNat_inj.mp (Int.ofNat.inj hcount)
  have hread : refundHat.unitsBody?.map (fun b ↦ (b.item, b.quantity.toInt)) = some ("hat", 1) := by
    decide +kernel
  obtain ⟨b, hbody, hasked⟩ := Option.map_eq_some_iff.mp hread
  obtain ⟨hitem, hquantity⟩ := Prod.mk.inj hasked
  have hstatus : (handle oneSpace s.gateway "two" refundHat).1.status? = some 204 := by
    have hs : s = oneHatLeft.restore := congrArg Snapshot.restore capture_afterTwoHats
    rw [hs]
    decide +kernel
  obtain ⟨units, refund, -, hunits, -, hreductions, hafter⟩ :=
    hnext "two" refundHat b hbody (by decide +kernel) hitem hstatus
  have hone : units = 1 := UInt32.toNat_inj.mp (by rw [hquantity] at hunits; exact_mod_cast hunits)
  exact ⟨t', left, ht', hleft, hleftOne, refund, hone ▸ hreductions, hafter⟩

end Http
end ShopPayments
