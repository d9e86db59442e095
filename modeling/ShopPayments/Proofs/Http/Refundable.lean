import Mathlib.Data.Rat.Floor
import ShopPayments.Proofs.Decimal.Quotient
import ShopPayments.Proofs.Http.Endpoints
import ShopPayments.Proofs.Refund.Report
import ShopPayments.Proofs.Refund.Units

/-!
# What is left to refund

A request lowers what a transaction was refunded exactly if it books a negative amount, and only
units of a line item with a negative unit price are worth such an amount: the other two endpoints
take positive amounts alone, this one looks at the number of units and not at their price.  As long
as no such units are refunded, what was refunded never falls, and what is left to refund never
grows and never exceeds what was captured, in cents.
-/

namespace ShopPayments

/-! ## One booking -/

namespace Gateway.Booked

variable {g after : Gateway} {space : UInt64} {request : RefundRequest} {t : Transaction}
  {total : Decimal} {refund : Refund}

theorem le_total (h : g.Booked space request t total refund after)
    (hamount : 0 ≤ refund.amount.toRat) : t.refunded.toRat ≤ total.toRat :=
  (Decimal.add_stores h.total_eq).le_of_le (le_add_of_nonneg_right hamount)

/-- Below any quantity there are whole cents within one cent of it, which keep a total that is a
cent less or even smaller away from it. -/
theorem total_lt (h : g.Booked space request t total refund after)
    (hroom : |t.refunded.toRat| * 100 + 1 < Decimal.magnitudeBound)
    (hamount : refund.amount.toRat < 0) : total.toRat < t.refunded.toRat := by
  have hcent := h.amount_isCents.le_of_neg hamount
  -- The least cents that are at least a cent less than what was refunded.
  let below : ℤ := ⌈t.refunded.toRat * 100 - 1⌉
  have hlow : t.refunded.toRat * 100 - 1 ≤ below := Int.le_ceil _
  have hhigh : (below : ℚ) < t.refunded.toRat * 100 := by
    have hceil := Int.ceil_lt_add_one (t.refunded.toRat * 100 - 1)
    rwa [sub_add_cancel] at hceil
  have hbelow : |(below : ℚ) / 100| * 100 < Decimal.magnitudeBound := by
    rw [abs_div, abs_of_pos (a := (100 : ℚ)) (by norm_num), div_mul_cancel₀ _ (by norm_num)]
    have habs := abs_le.mp (le_refl |t.refunded.toRat|)
    rw [abs_lt]
    constructor <;> linarith
  obtain ⟨cents, -, hcents⟩ := Money.exists_toRat_eq_of_isCents ⟨below, rfl⟩ hbelow
  have htotal : total.toRat ≤ cents.toRat := by
    apply (Decimal.add_stores h.total_eq).ge_of_ge
    rw [hcents]
    linarith
  rw [hcents] at htotal
  linarith

end Gateway.Booked

namespace Http

/-- Only the endpoint for units books a negative amount, for units of a negative price. -/
theorem Endpoint.Books.of_amount_neg {endpoint : Endpoint} {g after : Gateway} {space : UInt64}
    {t : Transaction} {request : RefundRequest} {total : Decimal} {refund : Refund}
    (h : endpoint.Books g space t request total refund after) (hneg : refund.amount.toRat < 0) :
    endpoint = .units ∧ ∃ item units, t.item? item.uniqueId = some item ∧ item.unitPrice < 0 ∧
      refund.reductions = [⟨item.uniqueId, units, 0⟩] := by
  have hpriced := h.booked.priced
  cases h.asks with
  | units item units left found positive counted fits names =>
    have hunits : units ≤ item.quantity :=
      UInt32.le_trans fits (Transaction.refundableUnits_le found counted)
    obtain ⟨value, hvalue, hround⟩ := names.value_units found hunits hpriced
    refine ⟨rfl, item, units, found, ?_, h.booked.reductions_eq.trans names.reductions_eq⟩
    rw [Decimal.toRat_neg_iff]
    by_contra hprice
    rw [not_lt] at hprice
    have hnonneg : 0 ≤ value.toRat := hvalue.nonneg (by positivity)
    rw [hround] at hneg
    exact absurd hneg (not_lt.mpr (Money.round_nonneg hnonneg))
  | amount amount left counted fits names =>
    have hvalue : 0 ≤ amount.value.toRat := ((Decimal.toRat_pos_iff _).mp amount.positive).le
    rw [Except.ok.inj (hpriced.symm.trans names.value_eq)] at hneg
    exact absurd hneg (not_lt.mpr (Money.round_nonneg hvalue))
  | part item amount value nonempty found priced fits names =>
    have hamount : 0 ≤ amount.value.toRat := ((Decimal.toRat_pos_iff _).mp amount.positive).le
    have hcut := Decimal.divCount_nonneg nonempty hamount
    obtain ⟨value, hvalue, hround⟩ := names.value_cut found hpriced
    have hnonneg : 0 ≤ value.toRat := hvalue.nonneg (by positivity)
    rw [hround] at hneg
    exact absurd hneg (not_lt.mpr (Money.round_nonneg hnonneg))

theorem Endpoint.Books.amount_nonneg {endpoint : Endpoint} {g after : Gateway} {space : UInt64}
    {t : Transaction} {request : RefundRequest} {total : Decimal} {refund : Refund}
    (h : endpoint.Books g space t request total refund after)
    (hprices : ∀ item ∈ t.items, 0 ≤ item.unitPrice) : 0 ≤ refund.amount.toRat := by
  by_contra hneg
  obtain ⟨-, item, units, hitem, hprice, -⟩ := h.of_amount_neg (not_le.mp hneg)
  have hnonneg := hprices item (List.mem_of_find?_eq_some hitem)
  exact Decimal.not_lt_iff_le.mpr hnonneg hprice

/-! ## One request -/

/-- The request is answered by refunding units of a line item with a negative unit price, which
books a negative amount on the transaction. -/
def RefundsNegatively (file : SettingsFile) (g : Gateway) (token : String) (r : Request)
    (space id : UInt64) : Prop :=
  Endpoint.at? (pathOf r.path) = some .units ∧
    (handle file g token r).1 = .response ⟨204, some ""⟩ ∧
    ∃ t item units refund, g.transaction? space id = some t ∧
      t.item? item.uniqueId = some item ∧ item.unitPrice < 0 ∧
      (handle file g token r).2.refundsOf space id = g.refundsOf space id ++ [refund] ∧
      refund.reductions = [⟨item.uniqueId, units, 0⟩] ∧ refund.amount < 0

variable {file : SettingsFile} {g : Gateway} {token : String} {r : Request} {space id : UInt64}
  {t t' : Transaction}

theorem refunded_le_of_not_negative (hkeyed : g.Keyed) (ht : g.transaction? space id = some t)
    (ht' : (handle file g token r).2.transaction? space id = some t')
    (h : ¬ RefundsNegatively file g token r space id) : t.refunded.toRat ≤ t'.refunded.toRat := by
  rcases handle_cases_at file hkeyed token r ht with
    ⟨hsame, -⟩ | ⟨hreply, endpoint, request, total, refund, hendpoint, hbooks, hafter, hrefunds⟩
  · rw [Option.some.inj (hsame.symm.trans ht')]
  · obtain rfl := Option.some.inj (hafter.symm.trans ht')
    apply hbooks.booked.le_total
    by_contra hneg
    rw [not_le] at hneg
    obtain ⟨rfl, item, units, hitem, hprice, hreductions⟩ := hbooks.of_amount_neg hneg
    exact h ⟨hendpoint, hreply, t, item, units, refund, ht, hitem, hprice, hrefunds, hreductions,
      (Decimal.toRat_neg_iff _).mpr hneg⟩

theorem refunded_lt_of_negative (hkeyed : g.Keyed) (ht : g.transaction? space id = some t)
    (ht' : (handle file g token r).2.transaction? space id = some t')
    (hroom : |t.refunded.toRat| * 100 + 1 < Decimal.magnitudeBound)
    (h : RefundsNegatively file g token r space id) : t'.refunded.toRat < t.refunded.toRat := by
  obtain ⟨-, -, -, item, units, negative, -, -, -, hnegative, -, hneg⟩ := h
  rcases handle_cases_at file hkeyed token r ht with
    ⟨-, hsame⟩ | ⟨-, endpoint, request, total, refund, -, hbooks, hafter, hrefunds⟩
  · rw [hsame] at hnegative
    simp at hnegative
  · obtain rfl := Option.some.inj (hafter.symm.trans ht')
    rw [hrefunds, List.append_cancel_left_eq, List.singleton_inj] at hnegative
    rw [← hnegative] at hneg
    exact hbooks.booked.total_lt hroom ((Decimal.toRat_neg_iff _).mp hneg)

/-! ## Sequences of requests -/

theorem refunded_le_serve (hkeyed : g.Keyed) (requests : List (String × Request))
    (ht : g.transaction? space id = some t)
    (ht' : (serve file g requests).transaction? space id = some t')
    (h : ∀ before r after, requests = before ++ r :: after →
      ¬ RefundsNegatively file (serve file g before) r.1 r.2 space id) :
    t.refunded.toRat ≤ t'.refunded.toRat := by
  induction requests generalizing g t with
  | nil =>
    rw [Option.some.inj (ht.symm.trans ht')]
  | cons r rest ih =>
    have hext := extends_handle file hkeyed r.1 r.2
    obtain ⟨next, hnext, -⟩ := hext.exists_later ht
    have hfirst := refunded_le_of_not_negative hkeyed ht hnext (h [] r rest rfl)
    refine hfirst.trans (ih (hkeyed.of_extends hext) hnext ht' ?_)
    intro before r' after hrest
    exact h (r :: before) r' after (by rw [hrest]; rfl)

/-- After any sequence of requests, one more request lowers what a transaction was refunded
exactly if it refunds units of a negative price for a negative amount, and without such requests
what was refunded never fell, and what is left never grew and is at most what was captured,
rounded to cents. -/
theorem serve_refunded_lt_iff (file : SettingsFile) (hkeyed : g.Keyed)
    (requests : List (String × Request)) (ht : g.transaction? space id = some t)
    (hrefunded : 0 ≤ t.refunded) (hcaptured : t.refunded ≤ t.captured) :
    ∃ t', (serve file g requests).transaction? space id = some t' ∧
      t' = { t with refunded := t'.refunded } ∧
      (∀ token r, ∃ next,
        (handle file (serve file g requests) token r).2.transaction? space id = some next ∧
          (next.refunded < t'.refunded →
            RefundsNegatively file (serve file g requests) token r space id) ∧
          (RefundsNegatively file (serve file g requests) token r space id →
            |t'.refunded.toRat| * 100 + 1 < Decimal.magnitudeBound →
              next.refunded < t'.refunded)) ∧
      ((∀ before r after, requests = before ++ r :: after →
          ¬ RefundsNegatively file (serve file g before) r.1 r.2 space id) →
        t.refunded ≤ t'.refunded ∧
          ∃ first left, t.refundableAmount = .ok first ∧ t'.refundableAmount = .ok left ∧
            left ≤ first ∧ left ≤ Money.round t.captured ∧
            (Money.IsCents t.captured.toRat → left ≤ t.captured)) := by
  have hext := extends_serve file hkeyed requests
  obtain ⟨t', ht', hsame⟩ := hext.exists_later ht
  have hlater := hkeyed.of_extends hext
  refine ⟨t', ht', hsame, ?_, ?_⟩
  · intro token r
    obtain ⟨last, hlast, -⟩ := (extends_handle file hlater token r).exists_later ht'
    refine ⟨last, hlast, ?_, ?_⟩
    · intro hlt
      by_contra hnot
      rw [Decimal.lt_iff_toRat_lt] at hlt
      exact absurd hlt (not_lt.mpr (refunded_le_of_not_negative hlater ht' hlast hnot))
    · intro hnegative hroom
      exact Decimal.lt_iff_toRat_lt.mpr (refunded_lt_of_negative hlater ht' hlast hroom hnegative)
  · intro hnever
    have hle := refunded_le_serve hkeyed requests ht ht' hnever
    have hlow : 0 ≤ t.refunded.toRat := (Decimal.toRat_nonneg_iff _).mp hrefunded
    have hhigh : 0 ≤ t.captured.toRat := hlow.trans (Decimal.le_iff_toRat_le.mp hcaptured)
    have hfixed : t'.captured = t.captured := by rw [hsame]
    obtain ⟨first, hfirst⟩ := Transaction.exists_refundableAmount hlow hhigh
    obtain ⟨left, hleft⟩ :=
      Transaction.exists_refundableAmount (hlow.trans hle) (hfixed ▸ hhigh)
    have hbound := Transaction.refundableAmount_le (hlow.trans hle) hleft
    rw [hfixed] at hbound
    refine ⟨Decimal.le_iff_toRat_le.mpr hle, first, left, hfirst, hleft,
      Transaction.refundableAmount_antitone hfixed hle hfirst hleft, hbound, ?_⟩
    intro hcents
    rw [Decimal.le_iff_toRat_le] at hbound ⊢
    exact hbound.trans_eq (Money.toRat_round_of_isCents hcents)

/-- A hat of sixty and a coupon of ten off, paid with fifty. -/
def hatAndCoupon : Transaction where
  id := 42
  space := 1
  state := .fulfill
  merchantReference := none
  currency := "EUR"
  authorized := .ofUInt32 50
  captured := .ofUInt32 50
  refunded := 0
  items := [
    ⟨"hat", "Hat", none, 1, .ofUInt32 60, .ofUInt32 60, .product⟩,
    ⟨"coupon", "Coupon", none, 1, -.ofUInt32 10, -.ofUInt32 10, .discount⟩]
  supportsRefunds := true

/-- Asks for the one unit of the coupon. -/
def refundCoupon : Request :=
  post "create-refund/" "\x7b\"transactionId\":42,\"quantity\":1,\"lineItemId\":\"coupon\"\x7d"

theorem refundCoupon_refundsNegatively :
    RefundsNegatively oneSpace (Gateway.holding hatAndCoupon) "token" refundCoupon 1 42 :=
  ⟨by decide +kernel, by decide +kernel, hatAndCoupon,
    ⟨"coupon", "Coupon", none, 1, -.ofUInt32 10, -.ofUInt32 10, .discount⟩, 1,
    ⟨1, 1, 42, .successful, -.ofUInt32 10, "refund_token", [⟨"coupon", 1, 0⟩]⟩,
    rfl, by decide, by decide, by decide +kernel, rfl, by decide⟩

/-- Refunding the coupon makes the refunded amount negative, and ten more than were captured can
be refunded then. -/
theorem serve_refunded_lt_iff_refundCoupon :
    ∃ next, (handle oneSpace (Gateway.holding hatAndCoupon) "token" refundCoupon).2.transaction?
        1 42 = some next ∧ next.refunded < hatAndCoupon.refunded := by
  have ht : (Gateway.holding hatAndCoupon).transaction? 1 42 = some hatAndCoupon := rfl
  obtain ⟨t', ht', -, hstep, -⟩ :=
    serve_refunded_lt_iff oneSpace (Gateway.keyed_holding hatAndCoupon) [] ht (by decide)
      (by decide)
  obtain rfl : hatAndCoupon = t' := Option.some.inj ht'
  obtain ⟨next, hnext, -, hfalls⟩ := hstep "token" refundCoupon
  have hroom : |hatAndCoupon.refunded.toRat| * 100 + 1 < Decimal.magnitudeBound := by
    rw [show hatAndCoupon.refunded = 0 from rfl, Decimal.toRat_zero, Decimal.magnitudeBound_eq]
    norm_num
  exact ⟨next, hnext, hfalls refundCoupon_refundsNegatively hroom⟩

end Http
end ShopPayments
