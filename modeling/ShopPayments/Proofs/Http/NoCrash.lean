import ShopPayments.Proofs.Http.Rejections
import ShopPayments.Proofs.Http.Spaces
import ShopPayments.Proofs.Http.UnitCount
import ShopPayments.Proofs.Refund.Report

/-!
# No request crashes a handler

Requests carry decimals and quantities of any size.  The checks of the handlers, the builder and the
gateway come in an order in which no sum, difference or product is formed of what is too large: the
quantity is compared with the units left before it is multiplied, an amount is compared with the
value of the line item before it is divided, and the quotient is at most a little more than the
price.  As long as what is stored is in range (`Transaction.InRange`), no request overflows, and
what is stored is in range again.
-/

namespace ShopPayments

open Decimal (HasPlaces)

/-- Amounts of at most eight places below a bound, of which no more was refunded than captured, and
unit prices that are not negative. -/
structure Transaction.InRange (t : Transaction) : Prop where
  refunded_nonneg : 0 ≤ t.refunded.toRat
  refunded_le : t.refunded.toRat ≤ t.captured.toRat
  captured_lt : t.captured.toRat < 10 ^ 15
  authorized_lt : |t.authorized.toRat| < 10 ^ 15
  refunded_places : HasPlaces 8 t.refunded.toRat
  captured_places : HasPlaces 8 t.captured.toRat
  authorized_places : HasPlaces 8 t.authorized.toRat
  price_nonneg : ∀ item ∈ t.items, 0 ≤ item.unitPrice.toRat
  price_lt : ∀ item ∈ t.items, item.unitPrice.toRat < 10 ^ 15
  price_places : ∀ item ∈ t.items, HasPlaces 8 item.unitPrice.toRat

/-- No result was without room. -/
def NeverOverflows {α : Type} (x : Except Failure α) : Prop :=
  FailsOnly (fun cause ↦ ¬ cause.IsOverflow) x

namespace Transaction.InRange

variable {t : Transaction} {item : TransactionItem} {request : RefundRequest} {amount : Decimal}

/-- The price of any number of units stays far below the largest decimal. -/
theorem abs_units_mul_le (ht : t.InRange) (hitem : item ∈ t.items) (units : UInt32) :
    |units.toNat * item.unitPrice.toRat| ≤ 10 ^ 25 := by
  have hnonneg := ht.price_nonneg item hitem
  have hunits : (units.toNat : ℚ) ≤ UInt32.size := by exact_mod_cast units.toNat_lt.le
  rw [abs_of_nonneg (by positivity)]
  calc
    units.toNat * item.unitPrice.toRat ≤ UInt32.size * 10 ^ 15 := by
      gcongr
      exact (ht.price_lt item hitem).le
    _ ≤ 10 ^ 25 := by norm_num [UInt32.size]

theorem units_mul_room (ht : t.InRange) (hitem : item ∈ t.items) (units : UInt32) :
    |units.toNat * item.unitPrice.toRat| ≤ Decimal.magnitudeBound - 1 := by
  refine (ht.abs_units_mul_le hitem units).trans ?_
  norm_num [Decimal.magnitudeBound]

/-- The value of a line item is kept below the same bound, exactly or not. -/
theorem value_le (ht : t.InRange) (hitem : item ∈ t.items) {value : Decimal}
    (hvalue : item.unitPrice.mul (.ofUInt32 item.quantity) = .ok value) :
    value.toRat ≤ 10 ^ 25 := by
  let bound : Decimal := ⟨false, 10 ^ 25, 0, by decide, by decide⟩
  have hbound : bound.toRat = 10 ^ 25 := by
    norm_num [Decimal.toRat_eq, Decimal.mantissa, bound]
  rw [← hbound]
  apply (Decimal.mul_stores hvalue).ge_of_ge
  rw [hbound, Decimal.toRat_ofUInt32, mul_comm]
  exact (le_abs_self _).trans (ht.abs_units_mul_le hitem item.quantity)

theorem abs_mul_tenPow_lt {x : ℚ} (hlow : 0 ≤ x) (hhigh : x < 10 ^ 15) :
    |x| * 10 ^ 8 < Decimal.magnitudeBound := by
  rw [abs_of_nonneg hlow]
  norm_num [Decimal.magnitudeBound] at hhigh ⊢
  linarith

/-- What the gateway compares an amount with is exact. -/
theorem exists_available (ht : t.InRange) :
    ∃ available, t.captured.sub t.refunded = .ok available ∧
      available.toRat = t.captured.toRat - t.refunded.toRat := by
  have hlow := ht.refunded_nonneg
  have hle := ht.refunded_le
  have hhigh := ht.captured_lt
  exact Decimal.exists_sub_toRat (by decide) ht.captured_places ht.refunded_places
    (abs_mul_tenPow_lt (by linarith) (by linarith))

/-- So is what was refunded with an amount that passes. -/
theorem exists_total (ht : t.InRange) (hcents : Money.IsCents amount.toRat)
    (hnonneg : 0 ≤ amount.toRat) (hle : amount.toRat ≤ t.captured.toRat - t.refunded.toRat) :
    ∃ total, t.refunded.add amount = .ok total ∧
      total.toRat = t.refunded.toRat + amount.toRat := by
  have hlow := ht.refunded_nonneg
  have hhigh := ht.captured_lt
  exact Decimal.exists_add_toRat (by decide) ht.refunded_places
    ((Money.isCents_iff_hasPlaces.mp hcents).mono (by decide))
    (abs_mul_tenPow_lt (by linarith) (by linarith))

/-! ## Booking -/

theorem neverOverflows_book (ht : t.InRange) (hvalue : request.value t = .ok amount)
    (hnonneg : 0 ≤ amount.toRat) (id : UInt64) : NeverOverflows (t.book request id) := by
  obtain ⟨available, havailable, hexact⟩ := ht.exists_available
  unfold Transaction.book
  refine FailsOnly.guard (by simp [Failure.IsOverflow]) fun _ ↦ ?_
  rw [hvalue, ok_bind, havailable, liftOverflow_ok, ok_bind]
  refine FailsOnly.guard (by simp [Failure.IsOverflow]) fun hfits ↦ ?_
  rw [Decimal.not_lt_iff_le, Decimal.le_iff_toRat_le, hexact] at hfits
  obtain ⟨total, htotal, -⟩ := ht.exists_total (RefundRequest.value_isCents hvalue) hnonneg hfits
  rw [htotal, liftOverflow_ok, ok_bind]
  exact .ok _

theorem booked {g after : Gateway} {space : UInt64} {total : Decimal} {refund : Refund}
    (ht : t.InRange) (hbooked : g.Booked space request t total refund after)
    (hnonneg : 0 ≤ refund.amount.toRat) : { t with refunded := total : Transaction }.InRange := by
  obtain ⟨available, havailable, hwithin⟩ := hbooked.within
  obtain ⟨available', havailable', hexact⟩ := ht.exists_available
  obtain rfl := Except.ok.inj (havailable.symm.trans havailable')
  rw [Decimal.le_iff_toRat_le, hexact] at hwithin
  obtain ⟨total', htotal', hsum⟩ := ht.exists_total hbooked.amount_isCents hnonneg hwithin
  obtain rfl := Except.ok.inj (htotal'.symm.trans hbooked.total_eq)
  have hlow := ht.refunded_nonneg
  exact
    { ht with
      refunded_nonneg := by dsimp only; rw [hsum]; linarith
      refunded_le := by dsimp only; rw [hsum]; linarith
      refunded_places := by
        dsimp only
        rw [hsum]
        exact ht.refunded_places.add
          ((Money.isCents_iff_hasPlaces.mp hbooked.amount_isCents).mono (by decide)) }

end Transaction.InRange

/-- Every transaction is in range. -/
def Gateway.InRange (g : Gateway) : Prop :=
  ∀ space id t, g.transaction? space id = some t → t.InRange

namespace Http

/-! ## Pricing -/

/-- Whatever an endpoint asks for can be priced, and is not worth less than nothing. -/
theorem Endpoint.Asks.exists_value {endpoint : Endpoint} {t : Transaction} {refunds : List Refund}
    {request : RefundRequest} (h : endpoint.Asks t refunds request) (ht : t.InRange) :
    ∃ amount, request.value t = .ok amount ∧ 0 ≤ amount.toRat := by
  cases h with
  | units item units left found positive counted fits names =>
    have hitem : item ∈ t.items := List.mem_of_find?_eq_some found
    obtain ⟨value, hvalue⟩ : ∃ value,
        RefundRequest.reductionValue t ⟨item.uniqueId, units, 0⟩ = .ok value :=
      RefundRequest.exists_reductionValue found (ht.units_mul_room hitem _)
        (by norm_num [Decimal.magnitudeBound]) (.inr (by simp))
    refine ⟨Money.round value, (RefundRequest.value_eq_ok_of_reduction names.amount_eq
      names.reductions_eq).mpr ⟨value, hvalue, rfl⟩, Money.round_nonneg ?_⟩
    exact (RefundRequest.reductionValue_full found (by simp) hvalue).nonneg
      (mul_nonneg (Nat.cast_nonneg _) (ht.price_nonneg item hitem))
  | amount amount left counted fits names =>
    exact ⟨_, names.value_eq,
      Money.round_nonneg ((Decimal.toRat_pos_iff _).mp amount.positive).le⟩
  | part item amount value nonempty found priced fits names =>
    have hitem : item ∈ t.items := List.mem_of_find?_eq_some found
    have hasked : 0 ≤ amount.value.toRat := ((Decimal.toRat_pos_iff _).mp amount.positive).le
    have hcut := Decimal.divCount_nonneg nonempty hasked
    have hroom : |item.quantity.toNat *
        (amount.value.divCount item.quantity.toNat nonempty).toRat| ≤
          Decimal.magnitudeBound - 1 := by
      have hsmall := (Decimal.le_iff_toRat_le.mp fits).trans (ht.value_le hitem priced)
      have hnear := (abs_le.mp (Decimal.abs_count_mul_divCount_sub_le nonempty
        item.quantity.toNat_lt hasked)).2
      rw [abs_of_nonneg (by positivity)]
      norm_num [Decimal.magnitudeBound] at hsmall hnear ⊢
      linarith
    obtain ⟨moved, hmoved⟩ := names.exists_value_cut found hroom
    obtain ⟨total, htotal, rfl⟩ := names.value_cut found hmoved
    exact ⟨_, hmoved, Money.round_nonneg (htotal.nonneg (by positivity))⟩

/-! ## One request -/

/-- The request is turned down for arithmetic that has no room. -/
def Rejection.Crashes (rejection : Rejection) : Prop :=
  ∃ operation, rejection = .failure (.overflow operation)

theorem covers_not_crashes : Rejection.Covers fun rejection ↦ ¬ rejection.Crashes := by
  constructor <;> simp [Rejection.Crashes]

theorem Rejection.reply_ne_crash {rejection : Rejection} (h : ¬ rejection.Crashes)
    (operation : Overflow) : rejection.reply ≠ .crash operation := by
  intro hreply
  unfold Rejection.reply at hreply
  split at hreply <;> cases hreply
  exact h ⟨operation, rfl⟩

section

variable {file : SettingsFile} {g : Gateway} {token : String} {space id : UInt64} {t : Transaction}
  {endpoint : Endpoint} {request : RefundRequest}

/-- What an endpoint asks of the gateway does not overflow there. -/
theorem not_crashes_createRefund (hkeyed : g.Keyed) (hrange : g.InRange) (hroom : g.HasRoom)
    (ht : g.transaction? space id = some t)
    (hasks : endpoint.Asks t (g.refundsOf space t.id) request) :
    FailsOnly (fun cause ↦ ¬ (Rejection.failure cause).Crashes) (g.createRefund space request) := by
  have hid : request.transaction = id := hasks.transaction_eq.trans (hkeyed.id_eq ht)
  apply failsOnly_createRefund
  · exact .of_exists ⟨_, Gateway.nextId_of_hasRoom hroom⟩
  · exact covers_not_crashes.unknownTransaction _
  · intro t' ht' number
    obtain rfl := Option.some.inj (ht.symm.trans (hid ▸ ht'))
    obtain ⟨amount, hvalue, hnonneg⟩ := hasks.exists_value (hrange _ _ t ht)
    refine ((hrange _ _ t ht).neverOverflows_book hvalue hnonneg number).imp ?_
    simp [Rejection.Crashes, Failure.IsOverflow]

theorem UnitsBody.not_crashes_of_run (b : UnitsBody) (hkeyed : g.Keyed) (hrange : g.InRange)
    (hfits : g.UnitsFit) (hroom : g.HasRoom) :
    FailsOnly (fun rejection ↦ ¬ rejection.Crashes) (b.run file g token) := by
  apply failsOnly_run covers_not_crashes
  · intro space t ht
    rw [hkeyed.id_eq ht]
    exact .of_exists (Transaction.exists_refundableUnits fun item ↦ hfits space _ t ht item b.item)
  · intro space t item units ht hitem
    apply FailsOnly.of_exists
    apply Decimal.exists_mul
    rw [Decimal.toRat_ofUInt32]
    exact (hrange _ _ t ht).units_mul_room (List.mem_of_find?_eq_some hitem) units
  · intro space t request ht hasks
    exact not_crashes_createRefund hkeyed hrange hroom ht hasks

theorem AmountBody.not_crashes_of_run (b : AmountBody) (hkeyed : g.Keyed) (hrange : g.InRange)
    (hroom : g.HasRoom) : FailsOnly (fun rejection ↦ ¬ rejection.Crashes) (b.run file g token) := by
  apply failsOnly_run covers_not_crashes
  · intro settings t _ ht
    have hstored := hrange _ _ t ht
    exact .of_exists (Transaction.exists_refundableAmount hstored.refunded_nonneg
      (hstored.refunded_nonneg.trans hstored.refunded_le))
  · intro settings t request _ ht hasks
    exact not_crashes_createRefund hkeyed hrange hroom ht hasks

theorem PartBody.not_crashes_of_run (b : PartBody) (hkeyed : g.Keyed) (hrange : g.InRange)
    (hroom : g.HasRoom) : FailsOnly (fun rejection ↦ ¬ rejection.Crashes) (b.run file g token) := by
  apply failsOnly_run covers_not_crashes
  · intro space t item ht hitem
    apply FailsOnly.of_exists
    apply Decimal.exists_mul
    rw [Decimal.toRat_ofUInt32, mul_comm]
    exact (hrange _ _ t ht).units_mul_room (List.mem_of_find?_eq_some hitem) item.quantity
  · intro space t request ht hasks
    exact not_crashes_createRefund hkeyed hrange hroom ht hasks

theorem answer_ne_crash {Body : Type} [Decode Body] {run : Body → Except Rejection Gateway}
    (hrun : ∀ b, FailsOnly (fun rejection ↦ ¬ rejection.Crashes) (run b)) (body : String)
    (operation : Overflow) : (answer run g body).1 ≠ .crash operation := by
  unfold answer
  split
  · simp
  · simp
  next b _ =>
    cases hresult : run b with
    | ok after => simp
    | error rejection => exact rejection.reply_ne_crash (hrun b rejection hresult) operation

theorem handle_ne_crash (file : SettingsFile) (hkeyed : g.Keyed) (hrange : g.InRange)
    (hfits : g.UnitsFit) (hroom : g.HasRoom) (token : String) (r : Request)
    (operation : Overflow) : (handle file g token r).1 ≠ .crash operation := by
  unfold handle
  split
  · simp
  next endpoint _ =>
    split
    · simp
    split
    · simp
    cases endpoint with
    | units =>
      exact answer_ne_crash (fun b ↦ b.not_crashes_of_run hkeyed hrange hfits hroom) _ _
    | amount => exact answer_ne_crash (fun b ↦ b.not_crashes_of_run hkeyed hrange hroom) _ _
    | part => exact answer_ne_crash (fun b ↦ b.not_crashes_of_run hkeyed hrange hroom) _ _

theorem inRange_handle (file : SettingsFile) (hkeyed : g.Keyed) (hrange : g.InRange)
    (token : String) (r : Request) : (handle file g token r).2.InRange := by
  rcases handle_cases file hkeyed token r with
    hsame | ⟨-, endpoint, -, space, t, request, total, refund, hbooks⟩
  · rwa [hsame]
  · have hstored := hrange _ _ t hbooks.booked.found
    obtain ⟨amount, hvalue, hnonneg⟩ := hbooks.asks.exists_value hstored
    obtain rfl := Except.ok.inj (hvalue.symm.trans hbooks.booked.priced)
    intro s id t' ht'
    rw [hbooks.booked.transaction?_after] at ht'
    split at ht'
    · obtain rfl := Option.some.inj ht'
      exact hstored.booked hbooks.booked hnonneg
    · exact hrange s id t' ht'

end

/-! ## Sequences of requests -/

/-- **No request crashes a handler.**  From a restored state whose transactions are in range, whose
refunds give back no more units than there are, and that has numbers left for all requests, no
request of a sequence overflows, whatever it asks for, and after it the transactions are in range
and the units fit again. -/
theorem serve_ne_crash (file : SettingsFile) (snapshot : Snapshot)
    (requests : List (String × Request))
    (hroom : snapshot.sequence.toNat + requests.length < UInt64.size)
    (hrange : snapshot.restore.gateway.InRange) (hfits : snapshot.restore.gateway.UnitsFit)
    (before after : List (String × Request)) (token : String) (r : Request)
    (hrequests : requests = before ++ (token, r) :: after) :
    let g := serve file snapshot.restore.gateway before
    (∀ operation, (handle file g token r).1 ≠ .crash operation) ∧
      (handle file g token r).2.InRange ∧ (handle file g token r).2.UnitsFit := by
  intro g
  have hkeyed := Gateway.keyed_restore snapshot
  have hnow : g.Keyed := hkeyed.of_extends (extends_serve file hkeyed before)
  have hroomNow : g.HasRoom := keepsRoom_of_lt file hkeyed hroom before (token, r) after hrequests
  obtain ⟨hrangeNow, hfitsNow⟩ : g.InRange ∧ g.UnitsFit := by
    apply serve_induction hkeyed (motive := fun later ↦ later.InRange ∧ later.UnitsFit)
    · exact ⟨hrange, hfits⟩
    · intro later token r hlater _ h
      exact ⟨inRange_handle file hlater h.1 token r, unitsFit_handle file hlater h.2 token r⟩
  exact ⟨handle_ne_crash file hnow hrangeNow hfitsNow hroomNow token r,
    inRange_handle file hnow hrangeNow token r, unitsFit_handle file hnow hfitsNow token r⟩

theorem inRange_fourHats : fourHats.restore.gateway.InRange := by
  intro space id t ht
  by_cases hkey : (1, 42) = (space, id)
  · obtain ⟨rfl, rfl⟩ := Prod.mk.inj hkey
    obtain rfl := Option.some.inj ht
    have hten : (Decimal.ofUInt32 10).toRat = 10 := Decimal.toRat_ofUInt32 10
    have hsixty : (Decimal.ofUInt32 60).toRat = 60 := Decimal.toRat_ofUInt32 60
    have hplaces (n : UInt32) : HasPlaces 8 (Decimal.ofUInt32 n).toRat :=
      (Decimal.hasPlaces_scale _).mono (Nat.zero_le 8)
    refine ⟨?_, ?_, ?_, ?_, hplaces 10, hplaces 60, hplaces 60, ?_, ?_, ?_⟩
    · norm_num [hten]
    · norm_num [hten, hatAndSock, hsixty]
    · norm_num [hatAndSock, hsixty]
    · norm_num [hatAndSock, hsixty]
    all_goals
      intro item hitem
      obtain rfl := List.mem_singleton.mp hitem
    · norm_num [hat, hten]
    · norm_num [hat, hten]
    · exact hplaces 10
  · have hnone : fourHats.restore.gateway.transaction? space id = none := if_neg hkey
    rw [hnone] at ht
    cases ht

/-- Asks for the largest decimal there is as a part of the hat. -/
def refundMostOfHat : Request :=
  post "create-partial-refund/" ("\x7b\"transactionId\":42,\"refundableAmount\":" ++
    "\"79228162514264337593543950335\",\"lineItemId\":\"hat\"\x7d")

/-- After two hats the largest decimal is asked for, and the handler answers. -/
theorem serve_ne_crash_fourHats :
    fourHats.restore.gateway.InRange ∧ fourHats.restore.gateway.UnitsFit ∧
      ∀ operation, (handle oneSpace
        (serve oneSpace fourHats.restore.gateway [("one", refundTwoHats)]) "two"
          refundMostOfHat).1 ≠ .crash operation := by
  obtain ⟨hanswers, -, -⟩ := serve_ne_crash oneSpace fourHats
    [("one", refundTwoHats), ("two", refundMostOfHat)] (by decide) inRange_fourHats
    unitsFit_fourHats [("one", refundTwoHats)] [] "two" refundMostOfHat rfl
  exact ⟨inRange_fourHats, unitsFit_fourHats, hanswers⟩

end Http
end ShopPayments
