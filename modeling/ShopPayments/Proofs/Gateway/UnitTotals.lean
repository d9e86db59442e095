import ShopPayments.Proofs.Refund.Report
import ShopPayments.Refund.Submission

/-!
# Totals of units

Nothing bounds the units that a refund names: a request may name any number of them, and units of a
line item that costs nothing may be asked for again and again.  A call that is not turned down adds
the units that it names to those recorded before (`UnitCall.takenUnits_next`), so after any calls
the total of a line item is known.  As long as it takes 32 bits, the units left and the row of the
report are the quantity without it, or nothing; from there on the count overflows.
-/

namespace ShopPayments

/-! ## Calls that give units back -/

/-- A call that may give units back: a request handed to the gateway, or units of a line item asked
of a transaction as it was read once. -/
inductive UnitCall where
  | book (space : UInt64) (request : RefundRequest)
  | refund (space : UInt64) (read : Transaction) (token itemId : String) (units : UInt32)

namespace UnitCall

variable {g after : Gateway} {space : UInt64} {refund? : Option Refund}

/-- What a call leads to. -/
def run (g : Gateway) : UnitCall → Except Failure (Option Refund × Gateway)
  | .book space request => g.submit space (some request)
  | .refund space read token itemId units => g.refundUnits space read token itemId units

/-- The state after a call; a failing call changes nothing. -/
def next (g : Gateway) (call : UnitCall) : Gateway :=
  match call.run g with
  | .ok (_, after) => after
  | .error _ => g

/-- The units of a line item that a call names; no units stand for the whole line item. -/
def named (space id : UInt64) (itemId : String) : UnitCall → ℕ
  | .book s request =>
    if (s, request.transaction) = (space, id) then
      ((request.reductions.filter (·.item = itemId)).map (·.units.toNat)).sum
    else 0
  | .refund s read _ item units =>
    if (s, read.id) = (space, id) ∧ item = itemId then
      if units = 0 then ((read.item? item).map (·.quantity.toNat)).getD 0 else units.toNat
    else 0

/-- The units of a line item that a call records: those that it names, if a refund comes of it. -/
def recorded (g : Gateway) (space id : UInt64) (itemId : String) (call : UnitCall) : ℕ :=
  match call.run g with
  | .ok (some _, _) => call.named space id itemId
  | _ => 0

theorem submit_cases {request? : Option RefundRequest}
    (h : g.submit space request? = .ok (refund?, after)) :
    (request? = none ∧ refund? = none ∧ after = g) ∨
      ∃ request refund t total, request? = some request ∧ refund? = some refund ∧
        g.Booked space request t total refund after := by
  unfold Gateway.submit at h
  split at h
  · obtain ⟨rfl, rfl⟩ := Prod.mk.inj (Except.ok.inj h)
    exact .inl ⟨rfl, rfl, rfl⟩
  next request =>
    simp only [bind_eq_ok, pure_eq_ok, Prod.exists, Prod.mk.injEq] at h
    obtain ⟨refund, after', hcreate, rfl, rfl⟩ := h
    obtain ⟨t, total, hbooked⟩ := Gateway.booked_of_createRefund hcreate
    exact .inr ⟨request, refund, t, total, rfl, rfl, hbooked⟩

/-- A call that succeeds without a refund changes nothing; with one, it books a request that names
the units of the call. -/
theorem run_cases {call : UnitCall} (h : call.run g = .ok (refund?, after)) :
    (refund? = none ∧ after = g) ∨
      ∃ s request refund t total, refund? = some refund ∧
        g.Booked s request t total refund after ∧
        ∀ space id itemId, call.named space id itemId =
          if (s, request.transaction) = (space, id) then
            ((request.reductions.filter (·.item = itemId)).map (·.units.toNat)).sum
          else 0 := by
  cases call with
  | book s request =>
    change g.submit s (some request) = _ at h
    rcases submit_cases h with ⟨hnone, -⟩ | ⟨request', refund, t, total, hsome, hrefund, hbooked⟩
    · cases hnone
    · obtain rfl := Option.some.inj hsome
      exact .inr ⟨s, request, refund, t, total, hrefund, hbooked, fun _ _ _ ↦ rfl⟩
  | refund s read token item units =>
    simp only [run, Gateway.refundUnits, bind_eq_ok] at h
    obtain ⟨request?, hbuilt, hsubmit⟩ := h
    rcases submit_cases hsubmit with
      ⟨-, hnone⟩ | ⟨request, refund, t, total, rfl, hrefund, hbooked⟩
    · exact .inl hnone
    · refine .inr ⟨s, request, refund, t, total, hrefund, hbooked, fun space id itemId ↦ ?_⟩
      obtain ⟨found, hfound, -, -, -, -, hmade⟩ := RefundRequest.ofUnits_eq_ok.mp hbuilt
      have hnames := RefundRequest.names_of_forTransaction hmade
      have hid := Transaction.uniqueId_of_item? hfound
      rw [named, hnames.transaction_eq, hnames.reductions_eq, RefundRequest.unitsReduction, hfound]
      by_cases hitem : item = itemId <;> by_cases hunits : units = 0 <;>
        simp [hitem, hunits, hid]

/-- A call adds what it records to the units that were given back before. -/
theorem takenUnits_next (g : Gateway) (call : UnitCall) (space id : UInt64) (itemId : String) :
    takenUnits ((call.next g).refundsOf space id) itemId =
      takenUnits (g.refundsOf space id) itemId + call.recorded g space id itemId := by
  unfold next recorded
  cases hrun : call.run g with
  | error cause => rfl
  | ok result =>
    rcases run_cases hrun with
      ⟨hnone, hsame⟩ | ⟨s, request, refund, t, total, hsome, hbooked, hnamed⟩
    · obtain ⟨refund?, after⟩ := result
      subst hnone hsame
      rfl
    · obtain ⟨refund?, after⟩ := result
      subst hsome
      rw [hbooked.takenUnits_after, hnamed]

end UnitCall

/-! ## Histories -/

namespace Gateway

/-- The state after a sequence of calls. -/
def afterUnitCalls (g : Gateway) (calls : List UnitCall) : Gateway :=
  calls.foldl (fun g call ↦ call.next g) g

/-- The units of a line item that a sequence of calls records. -/
def recordedUnits (g : Gateway) (space id : UInt64) (itemId : String) : List UnitCall → ℕ
  | [] => 0
  | call :: rest =>
    call.recorded g space id itemId + (call.next g).recordedUnits space id itemId rest

theorem takenUnits_afterUnitCalls (g : Gateway) (calls : List UnitCall) (space id : UInt64)
    (itemId : String) :
    takenUnits ((g.afterUnitCalls calls).refundsOf space id) itemId =
      takenUnits (g.refundsOf space id) itemId + g.recordedUnits space id itemId calls := by
  induction calls generalizing g with
  | nil => rfl
  | cons call rest ih =>
    have hrest := ih (call.next g)
    rw [UnitCall.takenUnits_next, Nat.add_assoc] at hrest
    exact hrest

end Gateway

/-! ## What is shown of a total -/

theorem Transaction.refundableUnits_eq_error {t : Transaction} {refunds : List Refund}
    {itemId : String} {item : TransactionItem} (hitem : t.item? itemId = some item)
    (h : UInt32.size ≤ takenUnits refunds itemId) :
    t.refundableUnits refunds itemId = .error .count := by
  rw [refundableUnits, hitem]
  dsimp only
  rw [refundedUnits_eq_error h, error_bind]

theorem Transaction.exists_refundableUnits_of_lt {t : Transaction} {refunds : List Refund}
    {itemId : String} {item : TransactionItem} (hitem : t.item? itemId = some item)
    (h : takenUnits refunds itemId < UInt32.size) :
    ∃ left, t.refundableUnits refunds itemId = .ok left ∧
      left.toNat = item.quantity.toNat - takenUnits refunds itemId := by
  obtain ⟨taken, htaken⟩ := exists_refundedUnits_of_lt h
  have hleft : t.refundableUnits refunds itemId = .ok (unitsLeft item.quantity taken) := by
    rw [refundableUnits, hitem]
    dsimp only
    rw [htaken]
    rfl
  exact ⟨_, hleft, toNat_of_refundableUnits hitem hleft⟩

theorem RefundableItem.units_of_ofItem {refunds : List Refund} {left : Decimal}
    {item : TransactionItem} {row : RefundableItem} (h : ofItem refunds left item = .ok row) :
    takenUnits refunds item.uniqueId < UInt32.size ∧
      row.refundableUnits.toNat = item.quantity.toNat - takenUnits refunds item.uniqueId := by
  obtain ⟨taken, htaken, full, -, cuts, -, remaining, -, rfl⟩ := ofItem_eq_ok.mp h
  exact ⟨takenUnits_lt_of_refundedUnits htaken,
    (toNat_unitsLeft _ _).trans (by rw [toNat_of_refundedUnits htaken])⟩

/-! ## What else may overflow -/

/-- No count overflows, whatever else may. -/
def CountsHold {α : Type} (x : Except Overflow α) : Prop := FailsOnly (· ≠ .count) x

/-- A result without room fails for the operation that it is the result of. -/
theorem countsHold_result (result : Option Decimal) {operation : Overflow}
    (h : operation ≠ .count) :
    CountsHold (match result with
      | some d => .ok d
      | none => .error operation) := by
  cases result with
  | some d => exact .ok d
  | none => exact .error h

theorem countsHold_add (a b : Decimal) : CountsHold (a.add b) := by
  unfold Decimal.add
  split
  · exact .ok _
  · split
    · exact .ok _
    · exact countsHold_result _ (by decide)

theorem countsHold_sub (a b : Decimal) : CountsHold (a.sub b) := by
  unfold Decimal.sub
  split
  · exact .ok _
  · split
    · exact .ok _
    · exact countsHold_result _ (by decide)

theorem countsHold_mul (a b : Decimal) : CountsHold (a.mul b) := by
  unfold Decimal.mul
  split
  · exact .ok _
  · split
    · exact .ok _
    · exact countsHold_result _ (by decide)

theorem countsHold_refundedCuts (refunds : List Refund) (quantity : UInt32) (itemId : String) :
    CountsHold (refundedCuts refunds quantity itemId) := by
  apply FailsOnly.foldlM
  intro total r _
  exact (countsHold_mul _ _).bind fun value _ ↦ countsHold_add total value

theorem countsHold_ofItem {refunds : List Refund} (left : Decimal) {item : TransactionItem}
    (h : takenUnits refunds item.uniqueId < UInt32.size) :
    CountsHold (RefundableItem.ofItem refunds left item) := by
  have hunits : CountsHold (refundedUnits refunds item.uniqueId) :=
    .of_exists (exists_refundedUnits_of_lt h)
  unfold RefundableItem.ofItem
  refine hunits.bind fun taken _ ↦ ?_
  refine (countsHold_mul _ _).bind fun full _ ↦ ?_
  refine (countsHold_refundedCuts _ _ _).bind fun cuts _ ↦ ?_
  exact (countsHold_sub _ _).bind fun remaining _ ↦ .ok _

theorem countsHold_refundableItems {t : Transaction} {refunds : List Refund}
    (h : ∀ item ∈ t.items, takenUnits refunds item.uniqueId < UInt32.size) :
    CountsHold (t.refundableItems refunds) := by
  have hleft : CountsHold t.refundableAmount :=
    (countsHold_sub _ _).bind fun left _ ↦ .ok _
  unfold Transaction.refundableItems
  refine hleft.bind fun left _ ↦ ?_
  exact FailsOnly.mapM fun item hitem ↦ countsHold_ofItem left (h item hitem)

/-! ## The counts after any history -/

namespace Gateway

/-- The units of a line item that were given back at the start and by the calls since. -/
def unitTotal (g : Gateway) (calls : List UnitCall) (space id : UInt64) (itemId : String) : ℕ :=
  takenUnits (g.refundsOf space id) itemId + g.recordedUnits space id itemId calls

/-- **Unit counts are exact up to 32 bits.**  Whatever calls follow on whatever state, the units
left of a line item and the units in its row of the report are the quantity without the total, or
nothing, as long as the total takes 32 bits.  A total that takes more makes the count overflow, and
there is no report. -/
theorem unitCounts_exact (g : Gateway) (calls : List UnitCall) (space : UInt64) (t : Transaction) :
    (∀ itemId item, t.item? itemId = some item →
      (g.unitTotal calls space t.id itemId < UInt32.size →
        ∃ left, t.refundableUnits ((g.afterUnitCalls calls).refundsOf space t.id) itemId =
            .ok left ∧
          left.toNat = item.quantity.toNat - g.unitTotal calls space t.id itemId) ∧
      (UInt32.size ≤ g.unitTotal calls space t.id itemId →
        t.refundableUnits ((g.afterUnitCalls calls).refundsOf space t.id) itemId =
          .error .count)) ∧
    (∀ rows, (g.afterUnitCalls calls).report space t = .ok rows →
      List.Forall₂ (fun item row ↦ g.unitTotal calls space t.id item.uniqueId < UInt32.size ∧
        row.refundableUnits.toNat =
          item.quantity.toNat - g.unitTotal calls space t.id item.uniqueId) t.items rows) ∧
    ((∀ item ∈ t.items, g.unitTotal calls space t.id item.uniqueId < UInt32.size) →
      (g.afterUnitCalls calls).report space t ≠ .error (.overflow .count)) := by
  simp only [unitTotal, ← takenUnits_afterUnitCalls]
  refine ⟨fun itemId item hitem ↦ ⟨?_, ?_⟩, fun rows hrows ↦ ?_, fun hroom ↦ ?_⟩
  · exact Transaction.exists_refundableUnits_of_lt hitem
  · exact Transaction.refundableUnits_eq_error hitem
  · obtain ⟨left, -, hforall⟩ := report_eq_ok.mp hrows
    exact hforall.imp fun _ _ ↦ RefundableItem.units_of_ofItem
  · intro hreport
    rw [report] at hreport
    cases hitems : t.refundableItems ((g.afterUnitCalls calls).refundsOf space t.id) with
    | ok rows =>
      rw [hitems] at hreport
      cases hreport
    | error operation =>
      rw [hitems] at hreport
      cases hreport
      exact countsHold_refundableItems hroom _ hitems rfl

/-- A hat with a gift that costs nothing. -/
def hatAndGift : Transaction :=
  { hatAndSock with items := [hat, ⟨"gift", "Gift", none, 1, 0, 0, .product⟩] }

/-- As many units of the gift as can be asked for. -/
def giftCall (token : String) : UnitCall := .refund 1 hatAndGift token "gift" 4294967295

/-- After one such call the count is exact, after two it overflows. -/
theorem unitCounts_exact_twoGifts :
    (∃ left, hatAndGift.refundableUnits
        (((holding hatAndGift).afterUnitCalls [giftCall "one"]).refundsOf 1 42) "gift" =
          .ok left ∧ left.toNat = 0) ∧
      hatAndGift.refundableUnits
        (((holding hatAndGift).afterUnitCalls [giftCall "one", giftCall "two"]).refundsOf 1 42)
          "gift" = .error .count := by
  have hone : (holding hatAndGift).unitTotal [giftCall "one"] 1 42 "gift" = 4294967295 := by
    decide +kernel
  have htwo : (holding hatAndGift).unitTotal [giftCall "one", giftCall "two"] 1 42 "gift" =
      8589934590 := by decide +kernel
  have hgift : hatAndGift.item? "gift" = some _ := rfl
  constructor
  · obtain ⟨left, hleft, hunits⟩ := ((unitCounts_exact (holding hatAndGift) [giftCall "one"] 1
      hatAndGift).1 "gift" _ hgift).1 (hone.trans_lt (by decide))
    refine ⟨left, hleft, hunits.trans ?_⟩
    rw [show hatAndGift.id = 42 from rfl, hone]
    rfl
  · exact ((unitCounts_exact (holding hatAndGift) [giftCall "one", giftCall "two"] 1
      hatAndGift).1 "gift" _ hgift).2 (htwo.symm ▸ by decide)

end Gateway
end ShopPayments
