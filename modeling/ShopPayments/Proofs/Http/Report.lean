import ShopPayments.Proofs.Http.AllOrNothing
import ShopPayments.Proofs.Http.Drift
import ShopPayments.Proofs.Http.Refundable
import ShopPayments.Proofs.Refund.Report

/-!
# The report and the money booked

The report takes the units given back and the recorded cuts off the value of a line item, while the
gateway books amounts in cents.  A part that is asked for in whole cents is booked at what was asked
for, and its cut comes back to that amount but for less than can add up to half a cent.  So the row
of a line item is its value without what was booked on it.  A part of any other precision is
recorded as it was asked for and booked in cents, and moves the row away from the money by up to
half a cent (`serve_report`).
-/

namespace ShopPayments

/-! ## Parts in whole cents -/

/-- What is stored of a quantity of ten billion or more is no less than that. -/
theorem Decimal.Stores.lt_of_round_lt {d : Decimal} {x : ℚ} (h : d.Stores x)
    (hsmall : (Money.round d).toRat < 10 ^ 9) : x < 10 ^ 10 := by
  by_contra hlarge
  let bound : Decimal := ⟨false, 10 ^ 10, 0, by decide, by decide⟩
  have hbound : bound.toRat = 10 ^ 10 := by norm_num [Decimal.toRat_eq, mantissa, bound]
  have hle : bound.toRat ≤ d.toRat := h.le_of_le (hbound ▸ not_lt.mp hlarge)
  have hround := (abs_le.mp (Money.abs_sub_round_le d)).2
  rw [hbound] at hle
  norm_num at hle hsmall
  linarith

/-- A part in whole cents that is booked below a billion is booked exactly, and the value of its
cut is next to it. -/
theorem Decimal.value_of_isCents {a value : Decimal} {quantity : UInt32}
    (hquantity : 0 < quantity.toNat)
    (hvalue : (ofUInt32 quantity).mul (a.divCount quantity.toNat hquantity) = .ok value)
    (ha : 0 ≤ a.toRat) (hcents : Money.IsCents a.toRat)
    (hsmall : (Money.round value).toRat < 10 ^ 9) :
    (Money.round value).toRat = a.toRat ∧ |value.toRat - a.toRat| ≤ 1 / 10 ^ 16 := by
  have hstores := mul_stores hvalue
  rw [toRat_ofUInt32] at hstores
  have hnear := abs_count_mul_divCount_sub_le hquantity quantity.toNat_lt ha
  generalize quantity.toNat * (a.divCount quantity.toNat hquantity).toRat = product
    at hstores hnear
  have hproduct := hstores.lt_of_round_lt hsmall
  obtain ⟨hbelow, habove⟩ := abs_le.mp hnear
  have hasked : a.toRat < 10 ^ 10 + 1 := by
    norm_num at hbelow hproduct ⊢
    linarith
  have hthousandth : |product - a.toRat| ≤ 1 / 1000 := by
    refine hnear.trans ?_
    norm_num at hasked ⊢
    linarith
  refine ⟨Money.toRat_round_of_stores hstores hcents ?_ hthousandth, ?_⟩
  · rw [abs_of_nonneg ha]
    norm_num at hasked ⊢
    linarith
  · have hkept : |value.toRat - product| ≤ 1 / 10 ^ 18 := by
      apply hstores.abs_sub_le (by decide)
      have hlow : -1 ≤ product := by
        norm_num at hbelow
        linarith
      have habs : |product| ≤ 10 ^ 10 := abs_le.mpr ⟨by linarith, hproduct.le⟩
      norm_num [magnitudeBound] at habs ⊢
      linarith
    calc
      |value.toRat - a.toRat| ≤ |value.toRat - product| + |product - a.toRat| := abs_sub_le _ _ _
      _ ≤ 1 / 10 ^ 18 + (1 / 10 ^ 18 + a.toRat / 10 ^ 27) := add_le_add hkept hnear
      _ ≤ 1 / 10 ^ 16 := by
        norm_num at hasked ⊢
        linarith

/-- Cents below a billion, of which every sum and difference here is exact. -/
structure Transaction.Small (t : Transaction) : Prop where
  captured_isCents : Money.IsCents t.captured.toRat
  captured_lt : |t.captured.toRat| < 10 ^ 9
  price_nonneg : ∀ item ∈ t.items, 0 ≤ item.unitPrice
  price_isCents : ∀ item ∈ t.items, Money.IsCents item.unitPrice.toRat
  price_lt : ∀ item ∈ t.items, item.unitPrice.toRat < 10 ^ 9

theorem Transaction.Small.congr {t t' : Transaction} (h : t.Small)
    (hsame : t' = { t with refunded := t'.refunded }) : t'.Small := by
  rw [hsame]
  exact { h with }

theorem Transaction.Small.exact {t : Transaction} (h : t.Small) {item : TransactionItem}
    (hitem : item ∈ t.items) : item.Exact := by
  have hnonneg := (Decimal.toRat_nonneg_iff _).mp (h.price_nonneg item hitem)
  refine Money.IsPrice.exact ⟨h.price_isCents item hitem, ?_⟩ hnonneg
  have hprice := h.price_lt item hitem
  rw [abs_of_nonneg hnonneg]
  norm_num at hprice ⊢
  linarith

namespace Http

/-- The part of a line item that a request asks for. -/
def Request.partBody? (r : Request) : Option PartBody :=
  if Endpoint.at? (pathOf r.path) = some .part then
    (Json.parse r.body : Except Misread PartBody).toOption
  else none

variable {file : SettingsFile} {g after : Gateway} {token : String} {r : Request}
  {space id : UInt64} {t : Transaction} {request : RefundRequest} {total : Decimal}
  {refund : Refund} {item : TransactionItem} {endpoint : Endpoint}

/-- A price is cut only where a part was asked for. -/
theorem Endpoint.Books.eq_part {itemId : String} {priceCut : Decimal}
    (h : endpoint.Books g space t request total refund after)
    (hreductions : refund.reductions = [⟨itemId, 0, priceCut⟩]) : endpoint = .part := by
  have hnamed := h.booked.reductions_eq.symm.trans hreductions
  cases h.asks with
  | units item units left found positive counted fits names =>
    rw [names.reductions_eq, List.singleton_inj, Reduction.mk.injEq] at hnamed
    rw [hnamed.2.1] at positive
    exact absurd positive (by decide)
  | amount amount left counted fits names =>
    rw [names.reductions_eq] at hnamed
    cases hnamed
  | part => rfl

/-- The endpoint for parts books the amount of the body that it read, as a quotient. -/
theorem exists_partBody (hkeyed : g.Keyed) (hendpoint : Endpoint.at? (pathOf r.path) = some .part)
    (h : g.Booked space request t total refund (handle file g token r).2) :
    ∃ b item, ∃ hquantity : 0 < item.quantity.toNat, r.partBody? = some b ∧
      0 < b.amount.toRat ∧ t.item? b.item = some item ∧
      refund.reductions = [⟨b.item, 0, b.amount.divCount item.quantity.toNat hquantity⟩] := by
  rcases handle_eq_answer_or file g token r with
    ⟨endpoint, hfound, hanswer⟩ | ⟨-, hsame⟩
  swap
  · exact absurd hsame h.after_ne
  obtain rfl := Option.some.inj (hendpoint.symm.trans hfound)
  rcases answer_eq_or (fun (b : PartBody) ↦ b.run file g token) g r.body with
    ⟨b, after, hread, hrun, hdone⟩ | ⟨-, hsame⟩
  swap
  · exact absurd ((congrArg Prod.snd hanswer).trans hsame) h.after_ne
  have hafter : (handle file g token r).2 = after := by
    rw [hanswer, Endpoint.answer, hdone]
  rw [hafter] at h
  obtain ⟨a, settings, t', ha, -, ht', hsame | ⟨built, booked, hbuilt, hcreate⟩⟩ :=
    PartBody.created_of_run hrun
  · exact absurd hsame h.after_ne
  obtain ⟨t'', total', hbooked⟩ := Gateway.booked_of_createRefund hcreate
  obtain ⟨rfl, rfl⟩ := h.unique hbooked
  obtain ⟨item, value, hquantity, hitem, -, -, hnames⟩ := RefundRequest.names_of_ofPart hbuilt
  have hfound := hbooked.found
  rw [hnames.transaction_eq, hkeyed.id_eq ht', ht'] at hfound
  obtain rfl := Option.some.inj hfound
  refine ⟨b, item, hquantity, ?_, ?_, hitem, ?_⟩
  · rw [Request.partBody?, if_pos hendpoint, hread]
    rfl
  · rw [← ha]
    exact (Decimal.toRat_pos_iff _).mp a.positive
  · rw [← ha]
    exact hbooked.reductions_eq.trans hnames.reductions_eq

/-! ## One transaction -/

/-- What was refunded of a transaction is what its refunds moved, whole cents each and no more than
was captured, and every refund took a number. -/
structure Accounts (g : Gateway) (space id : UInt64) (t : Transaction) : Prop where
  found : g.transaction? space id = some t
  refunded_eq : t.refunded.toRat = ((g.refundsOf space id).map (·.amount.toRat)).sum
  refunded_le : t.refunded.toRat ≤ max 0 t.captured.toRat
  refunded_isCents : Money.IsCents t.refunded.toRat
  amount_nonneg : ∀ r ∈ g.refundsOf space id, 0 ≤ r.amount.toRat
  amount_isCents : ∀ r ∈ g.refundsOf space id, Money.IsCents r.amount.toRat
  length_le : (g.refundsOf space id).length ≤ g.sequence.toNat

namespace Accounts

theorem refunded_nonneg (h : Accounts g space id t) : 0 ≤ t.refunded.toRat := by
  rw [h.refunded_eq]
  exact (moved_nonneg h.amount_nonneg fun _ ↦ true).trans (moved_le_sum h.amount_nonneg _)

theorem parts_le (h : Accounts g space id t) (itemId : String) :
    bookedParts (g.refundsOf space id) itemId ≤ t.refunded.toRat := by
  rw [h.refunded_eq]
  exact moved_le_sum h.amount_nonneg _

theorem partsOf_le (h : Accounts g space id t) (itemId : String) :
    partsOf (g.refundsOf space id) itemId ≤ g.sequence.toNat :=
  (List.length_filter_le _ _).trans h.length_le

theorem abs_left_lt (h : Accounts g space id t) (hsmall : t.Small) :
    |t.captured.toRat - t.refunded.toRat| < 10 ^ 9 := by
  have hlow := h.refunded_nonneg
  have hle := h.refunded_le
  obtain ⟨hbelow, habove⟩ := abs_lt.mp hsmall.captured_lt
  rw [abs_lt]
  rcases le_total 0 t.captured.toRat with hcaptured | hcaptured
  · rw [max_eq_right hcaptured] at hle
    constructor <;> linarith
  · rw [max_eq_left hcaptured] at hle
    constructor <;> linarith

theorem left_room (h : Accounts g space id t) (hsmall : t.Small) :
    |t.captured.toRat - t.refunded.toRat| * 100 < Decimal.magnitudeBound := by
  have hleft := h.abs_left_lt hsmall
  norm_num [Decimal.magnitudeBound] at hleft ⊢
  linarith

/-- Where something was booked, no more was refunded than captured. -/
theorem balanced (h : Accounts g space id t) (hsmall : t.Small)
    (hbooked : g.Booked space request t total refund after) (hamount : 0 ≤ refund.amount.toRat) :
    t.Balanced := by
  obtain ⟨available, havailable, hfits⟩ := hbooked.within
  have hexact : available.toRat = t.captured.toRat - t.refunded.toRat :=
    (Decimal.sub_stores havailable).toRat_eq_of_isCents
      (hsmall.captured_isCents.sub h.refunded_isCents) (h.left_room hsmall)
  rw [Decimal.le_iff_toRat_le, hexact] at hfits
  have hcaptured := (abs_lt.mp hsmall.captured_lt).2
  exact ⟨h.refunded_nonneg, by linarith, by norm_num at hcaptured ⊢; linarith,
    hsmall.captured_isCents, h.refunded_isCents⟩

theorem amount_lt (h : Accounts g space id t) (hsmall : t.Small)
    (hbooked : g.Booked space request t total refund after) (hamount : 0 ≤ refund.amount.toRat) :
    refund.amount.toRat < 10 ^ 9 := by
  have hfits := hbooked.amount_le (h.balanced hsmall hbooked hamount)
  have hcaptured := (abs_lt.mp hsmall.captured_lt).2
  have hrefunded := h.refunded_nonneg
  linarith

end Accounts

theorem sequence_le_handle (file : SettingsFile) (hkeyed : g.Keyed) (token : String) (r : Request) :
    g.sequence.toNat ≤ (handle file g token r).2.sequence.toNat := by
  rcases handle_cases file hkeyed token r with
    hsame | ⟨-, endpoint, -, space, t, request, total, refund, hbooks⟩
  · rw [hsame]
  · rw [hbooks.booked.toNat_sequence_after]
    exact Nat.le_succ _

/-- One request keeps the accounts. -/
theorem Accounts.handle (h : Accounts g space id t) (hkeyed : g.Keyed) (hsmall : t.Small)
    (file : SettingsFile) (token : String) (r : Request) :
    ∃ refunded, Accounts (handle file g token r).2 space id { t with refunded } := by
  have hnumbers := sequence_le_handle file hkeyed token r
  rcases handle_cases_at file hkeyed token r h.found with
    ⟨hfound, hsame⟩ | ⟨-, endpoint, request, total, refund, -, hbooks, hfound, hrefunds⟩
  · refine ⟨t.refunded, hfound, ?_, h.refunded_le, h.refunded_isCents, ?_, ?_, ?_⟩ <;> rw [hsame]
    · exact h.refunded_eq
    · exact h.amount_nonneg
    · exact h.amount_isCents
    · exact h.length_le.trans hnumbers
  · have hbooked := hbooks.booked
    have hamount := hbooks.amount_nonneg hsmall.price_nonneg
    have hbalanced := h.balanced hsmall hbooked hamount
    have htotal := hbooked.total_toRat hbalanced hamount
    have hnext := hbooked.balanced hbalanced hamount
    refine ⟨total, hfound, ?_, hnext.refunded_le.trans (le_max_right _ _), hnext.refunded_isCents,
      ?_, ?_, ?_⟩ <;> rw [hrefunds]
    · rw [htotal, h.refunded_eq]
      simp
    · exact List.forall_mem_append.mpr ⟨h.amount_nonneg, List.forall_mem_singleton.mpr hamount⟩
    · exact List.forall_mem_append.mpr
        ⟨h.amount_isCents, List.forall_mem_singleton.mpr hbooked.amount_isCents⟩
    · rw [hbooked.toNat_sequence_after, List.length_append, List.length_singleton]
      exact Nat.add_le_add_right h.length_le 1

/-- What the accounts of the parts may come to has room. -/
theorem Accounts.room (h : Accounts g space id t) (hsmall : t.Small)
    (hbooked : g.Booked space request t total refund after) (hamount : 0 ≤ refund.amount.toRat)
    (itemId : String) {error : ℚ} (herror : 0 ≤ error) {places : ℕ}
    (hroom : (10 ^ 9 + UInt64.size * error + 1) * 10 ^ places < Decimal.magnitudeBound) :
    (bookedParts (g.refundsOf space id) itemId + refund.amount.toRat +
      (partsOf (g.refundsOf space id) itemId + 1) * error + 1) * 10 ^ places <
        Decimal.magnitudeBound := by
  have hfits := hbooked.amount_le (h.balanced hsmall hbooked hamount)
  have hparts := h.parts_le itemId
  have hcaptured := (abs_lt.mp hsmall.captured_lt).2
  have hcount : (partsOf (g.refundsOf space id) itemId + 1 : ℚ) ≤ UInt64.size := by
    exact_mod_cast (Nat.add_le_add_right (h.partsOf_le itemId) 1).trans hbooked.sequence_lt.le
  refine lt_of_le_of_lt ?_ hroom
  gcongr
  linarith

/-! ## One line item -/

/-- A part that was asked for in whole cents is at least one cent, and its cut is next to it. -/
theorem Endpoint.Books.whole_part (hkeyed : g.Keyed)
    (hendpoint : Endpoint.at? (pathOf r.path) = some endpoint)
    (h : endpoint.Books g space t request total refund (Http.handle file g token r).2)
    (hitem : t.item? item.uniqueId = some item)
    (hwhole : ∀ b, r.partBody? = some b → b.item = item.uniqueId → Money.IsCents b.amount.toRat)
    (hsmall : refund.amount.toRat < 10 ^ 9) {priceCut value : Decimal}
    (hreductions : refund.reductions = [⟨item.uniqueId, 0, priceCut⟩])
    (hvalue : (Decimal.ofUInt32 item.quantity).mul priceCut = .ok value)
    (hamount : refund.amount.toRat = (Money.round value).toRat) :
    1 / 100 ≤ refund.amount.toRat ∧ |value.toRat - refund.amount.toRat| ≤ 1 / 10 ^ 16 := by
  obtain rfl := h.eq_part hreductions
  obtain ⟨b, other, hquantity, hbody, hpositive, hfound, hnamed⟩ :=
    exists_partBody hkeyed hendpoint h.booked
  rw [hreductions, List.singleton_inj, Reduction.mk.injEq] at hnamed
  obtain ⟨hname, -, rfl⟩ := hnamed
  obtain rfl := Option.some.inj (hitem.symm.trans (hname ▸ hfound))
  have hcents := hwhole b hbody hname.symm
  obtain ⟨hexact, hnear⟩ := Decimal.value_of_isCents hquantity hvalue hpositive.le hcents
    (hamount ▸ hsmall)
  rw [hamount, hexact]
  refine ⟨?_, hnear⟩
  obtain ⟨cents, hcents⟩ := hcents
  rw [hcents] at hpositive ⊢
  have hcount : (0 : ℚ) < cents := by linarith
  have hone : (1 : ℚ) ≤ cents := by exact_mod_cast hcount
  linarith

/-- The refunds of a line item are settled and its parts are tracked, within half a cent each, and
much closer where all of them are whole cents. -/
structure Follows (refunds : List Refund) (item : TransactionItem) (whole : Prop) : Prop where
  settled : Settled refunds item
  tracks : Tracks refunds item (1 / 200 + 1 / 10 ^ 10)
  tracks_whole : whole → Tracks refunds item (1 / 10 ^ 15)
  parts_le : whole →
    (partsOf refunds item.uniqueId : ℚ) ≤ 100 * bookedParts refunds item.uniqueId

theorem follows_nil (item : TransactionItem) (whole : Prop) : Follows [] item whole where
  settled := settled_nil item
  tracks := tracks_nil item _
  tracks_whole := fun _ ↦ tracks_nil item _
  parts_le := fun _ ↦ by simp [partsOf, bookedParts, moved]

/-- One more refund of a line item is followed, if it settles and a part of it is close where all
are whole cents. -/
theorem Follows.append {refunds : List Refund} {whole : Prop} (h : Follows refunds item whole)
    (hstate : refund.state ≠ .failed) (hconcerns : refund.Concerns item)
    (hsettled : Settled (refunds ++ [refund]) item)
    (hclose : whole → ∀ priceCut value, refund.reductions = [⟨item.uniqueId, 0, priceCut⟩] →
      (Decimal.ofUInt32 item.quantity).mul priceCut = .ok value →
      refund.amount.toRat = (Money.round value).toRat →
      1 / 100 ≤ refund.amount.toRat ∧ |value.toRat - refund.amount.toRat| ≤ 1 / 10 ^ 16)
    (hbooked : 0 ≤ bookedParts refunds item.uniqueId) (hamount : 0 ≤ refund.amount.toRat)
    (hroom : ∀ (error : ℚ) (places : ℕ), 0 ≤ error →
      (10 ^ 9 + UInt64.size * error + 1) * 10 ^ places < Decimal.magnitudeBound →
      (bookedParts refunds item.uniqueId + refund.amount.toRat +
        (partsOf refunds item.uniqueId + 1) * error + 1) * 10 ^ places < Decimal.magnitudeBound) :
    Follows (refunds ++ [refund]) item whole where
  settled := hsettled
  tracks := by
    -- Half a cent for each of all the parts that can be numbered leaves room for ten places.
    refine h.tracks.append hstate hconcerns (fun _ _ _ _ hround ↦ ?_) (by decide) le_rfl hbooked
      hamount (hroom _ _ (by norm_num) (by norm_num [UInt64.size, Decimal.magnitudeBound]))
    rw [hround]
    exact Money.abs_sub_round_le _
  tracks_whole := by
    intro hyes
    have hbudget : (1 : ℚ) / 10 ^ 16 + 1 / 10 ^ 18 ≤ 1 / 10 ^ 15 := by norm_num
    exact (h.tracks_whole hyes).append hstate hconcerns
      (fun priceCut value hreductions hvalue hround ↦
        (hclose hyes priceCut value hreductions hvalue hround).2)
      (by decide) hbudget hbooked hamount
      (hroom _ _ (by norm_num) (by norm_num [UInt64.size, Decimal.magnitudeBound]))
  parts_le := by
    intro hyes
    have hold := h.parts_le hyes
    rw [partsOf_append_singleton, bookedParts_append_singleton]
    by_cases hpart : refund.isPartOf item.uniqueId
    · obtain ⟨priceCut, value, hreductions, hvalue, hround⟩ := hconcerns.of_isPartOf hpart
      have hcent := (hclose hyes priceCut value hreductions hvalue hround).1
      rw [if_pos hpart, if_pos hpart]
      push_cast
      linarith
    · rw [if_neg hpart, if_neg hpart]
      simpa using hold

theorem Follows.handle {whole : Prop} (h : Follows (g.refundsOf space id) item whole)
    (haccounts : Accounts g space id t) (hkeyed : g.Keyed) (hsmall : t.Small)
    (hitem : t.item? item.uniqueId = some item) (file : SettingsFile) (token : String) (r : Request)
    (hwhole : whole →
      ∀ b, r.partBody? = some b → b.item = item.uniqueId → Money.IsCents b.amount.toRat) :
    Follows ((handle file g token r).2.refundsOf space id) item whole := by
  have hexact := hsmall.exact (List.mem_of_find?_eq_some hitem)
  have hsettled : Settled ((Http.handle file g token r).2.refundsOf space id) item :=
    h.settled.handle hkeyed haccounts.found hitem hexact
  rcases handle_cases_at file hkeyed token r haccounts.found with
    ⟨-, hsame⟩ | ⟨-, endpoint, request, total, refund, hendpoint, hbooks, -, hrefunds⟩
  · rw [hsame]
    exact h
  · have hbooked := hbooks.booked
    have hstate : refund.state ≠ .failed := by
      rw [hbooked.state_eq]
      decide
    have hamount := hbooks.amount_nonneg hsmall.price_nonneg
    have hbelow := haccounts.amount_lt hsmall hbooked hamount
    rw [hrefunds] at hsettled ⊢
    exact h.append hstate (hbooks.concerns hitem) hsettled
      (fun hyes _ _ hreductions hvalue hround ↦
        hbooks.whole_part hkeyed hendpoint hitem (hwhole hyes) hbelow hreductions hvalue hround)
      (moved_nonneg haccounts.amount_nonneg _) hamount
      fun _ _ herror ↦ haccounts.room hsmall hbooked hamount item.uniqueId herror

/-! ## Rows -/

section

variable {refunds : List Refund} {left : Decimal} {row : RefundableItem} {error : ℚ}

/-- The price of any number of units at less than a billion each. -/
theorem abs_units_mul_le {price : ℚ} (hnonneg : 0 ≤ price) (hprice : price < 10 ^ 9)
    (units : UInt32) : |units.toNat * price| ≤ UInt32.size * 10 ^ 9 := by
  have hunits : (units.toNat : ℚ) ≤ UInt32.size := by exact_mod_cast units.toNat_lt.le
  rw [abs_of_nonneg (by positivity)]
  gcongr

/-- What was not booked of a line item is the price of the units left without the parts. -/
theorem Settled.value_sub_bookedOn (h : Settled refunds item) {taken : UInt32}
    (htaken : refundedUnits refunds item.uniqueId = .ok taken) :
    item.value - bookedOn refunds item.uniqueId =
      item.unitPrice.toRat * (unitsLeft item.quantity taken).toNat -
        bookedParts refunds item.uniqueId := by
  have hleft : ((unitsLeft item.quantity taken).toNat : ℚ) =
      item.quantity.toNat - takenUnits refunds item.uniqueId := by
    rw [toNat_unitsLeft, toNat_of_refundedUnits htaken, Nat.cast_sub h.taken_le]
  rw [h.booked_eq, TransactionItem.value, hleft]
  ring

/-- A line item whose refunds are settled and tracked has a row, and what remains in it is the value
without what was booked, up to the error of the parts. -/
theorem Settled.exists_row (h : Settled refunds item) (hexact : item.Exact)
    (hprice : item.unitPrice.toRat < 10 ^ 9) (htracks : Tracks refunds item error)
    (hroom : |bookedParts refunds item.uniqueId| + partsOf refunds item.uniqueId * error ≤ 10 ^ 18)
    (left : Decimal) :
    ∃ row, RefundableItem.ofItem refunds left item = .ok row ∧ ∃ remaining : Decimal,
      row.refundableAmount.toRat = min (Money.round (remaining.max 0)).toRat left.toRat ∧
      |remaining.toRat - (item.value - bookedOn refunds item.uniqueId)| ≤
        partsOf refunds item.uniqueId * error + 1 / 10 ^ 10 := by
  obtain ⟨taken, htaken⟩ := exists_refundedUnits h.taken_le
  obtain ⟨cuts, hcuts, hnear⟩ := htracks
  have hsize := abs_units_mul_le hexact.nonneg hprice (unitsLeft item.quantity taken)
  obtain ⟨full, hfull⟩ : ∃ full,
      (Decimal.ofUInt32 (unitsLeft item.quantity taken)).mul item.unitPrice = .ok full := by
    apply Decimal.exists_mul
    rw [Decimal.toRat_ofUInt32]
    refine hsize.trans ?_
    norm_num [UInt32.size, Decimal.magnitudeBound]
  have hstores := Decimal.mul_stores hfull
  rw [Decimal.toRat_ofUInt32] at hstores
  have hfullEq := hexact.toRat_eq (unitsLeft_le _ _) hstores
  rw [mul_comm, ← hfullEq] at hsize
  have hdifference : |full.toRat - cuts.toRat| ≤ UInt32.size * 10 ^ 9 + 10 ^ 18 := by
    have hcutsLe := abs_sub_abs_le_abs_sub cuts.toRat (bookedParts refunds item.uniqueId)
    refine (abs_sub _ _).trans (add_le_add hsize ?_)
    linarith
  obtain ⟨remaining, hremaining⟩ : ∃ remaining, full.sub cuts = .ok remaining := by
    apply Decimal.exists_sub
    refine hdifference.trans ?_
    norm_num [UInt32.size, Decimal.magnitudeBound]
  have hkept : |remaining.toRat - (full.toRat - cuts.toRat)| ≤ 1 / 10 ^ 10 := by
    apply (Decimal.sub_stores hremaining).abs_sub_le (by decide)
    norm_num [UInt32.size, Decimal.magnitudeBound] at hdifference ⊢
    linarith
  refine ⟨_, RefundableItem.ofItem_eq_ok.mpr
    ⟨taken, htaken, full, hfull, cuts, hcuts, remaining, hremaining, rfl⟩, remaining,
    Decimal.toRat_min _ _, ?_⟩
  obtain ⟨hlow, hhigh⟩ := abs_le.mp hnear
  obtain ⟨hlow', hhigh'⟩ := abs_le.mp hkept
  rw [h.value_sub_bookedOn htaken, ← hfullEq, abs_le]
  constructor <;> linarith

end

/-- What was not booked of a line item, between nothing and what is left of its transaction. -/
def unbooked (refunds : List Refund) (item : TransactionItem) (left : ℚ) : ℚ :=
  min (max 0 (item.value - bookedOn refunds item.uniqueId)) left

/-- The row of a line item that is followed: it is what was not booked where the parts are whole
cents, and else it is off by at most half a cent for each part and another one. -/
theorem Follows.exists_row {whole : Prop} (h : Follows (g.refundsOf space id) item whole)
    (haccounts : Accounts g space id t) (hsmall : t.Small) (hitem : item ∈ t.items)
    (left : Decimal) :
    ∃ row, RefundableItem.ofItem (g.refundsOf space id) left item = .ok row ∧
      row.uniqueId = item.uniqueId ∧
      (whole → row.refundableAmount.toRat = unbooked (g.refundsOf space id) item left.toRat) ∧
      |row.refundableAmount.toRat - unbooked (g.refundsOf space id) item left.toRat| ≤
        (partsOf (g.refundsOf space id) item.uniqueId + 1) * (1 / 200 + 1 / 10 ^ 10) := by
  have hexact := hsmall.exact hitem
  have hprice := hsmall.price_lt item hitem
  have hlow := moved_nonneg haccounts.amount_nonneg (·.isPartOf item.uniqueId)
  have hparts : |bookedParts (g.refundsOf space id) item.uniqueId| ≤ 10 ^ 9 := by
    rw [bookedParts, abs_of_nonneg hlow]
    refine (haccounts.parts_le item.uniqueId).trans (haccounts.refunded_le.trans ?_)
    exact max_le (by norm_num) (abs_lt.mp hsmall.captured_lt).2.le
  have hcount : (partsOf (g.refundsOf space id) item.uniqueId : ℚ) ≤ UInt64.size := by
    exact_mod_cast (haccounts.partsOf_le item.uniqueId).trans g.sequence.toNat_lt.le
  have hroom : ∀ error : ℚ, 0 ≤ error → 10 ^ 9 + UInt64.size * error ≤ 10 ^ 18 →
      |bookedParts (g.refundsOf space id) item.uniqueId| +
        partsOf (g.refundsOf space id) item.uniqueId * error ≤ 10 ^ 18 := by
    intro error herror hsize
    exact (add_le_add hparts (mul_le_mul_of_nonneg_right hcount herror)).trans hsize
  obtain ⟨row, hrow, remaining, hamount, hnear⟩ := h.settled.exists_row hexact hprice h.tracks
    (hroom _ (by norm_num) (by norm_num [UInt64.size])) left
  refine ⟨row, hrow, RefundableItem.uniqueId_of_ofItem hrow, fun hyes ↦ ?_, ?_⟩
  · obtain ⟨row', hrow', remaining', hamount', hnear'⟩ :=
      h.settled.exists_row hexact hprice (h.tracks_whole hyes)
        (hroom _ (by norm_num) (by norm_num [UInt64.size])) left
    obtain rfl := Except.ok.inj (hrow'.symm.trans hrow)
    have hfew := h.parts_le hyes
    have hcents : Money.IsCents (item.value - bookedOn (g.refundsOf space id) item.uniqueId) :=
      hexact.value_isCents.sub (moved_isCents haccounts.amount_isCents _)
    rw [hamount', unbooked, Money.toRat_round_max_of_near hcents]
    refine hnear'.trans_lt ?_
    have hmost := (abs_le.mp hparts).2
    norm_num at hmost ⊢
    linarith
  · have hround := Money.abs_round_max_sub_le hnear
    rw [hamount, unbooked]
    refine (abs_min_sub_min_le_max _ _ _ _).trans ?_
    rw [sub_self, abs_zero]
    refine max_le (hround.trans_eq ?_) (by positivity)
    ring

/-! ## Sequences of requests -/

/-- After any sequence of requests the accounts of a transaction are kept and its line items are
followed. -/
theorem serve_follows (file : SettingsFile) (hkeyed : g.Keyed) (requests : List (String × Request))
    (ht : g.transaction? space id = some t) (hnone : g.refundsOf space id = [])
    (hrefunded : t.refunded.toRat = 0) (hdistinct : (t.items.map (·.uniqueId)).Nodup)
    (hsmall : t.Small) :
    ∃ t', t' = { t with refunded := t'.refunded } ∧ Accounts (serve file g requests) space id t' ∧
      ∀ item ∈ t.items, Follows ((serve file g requests).refundsOf space id) item
        (∀ r ∈ requests, ∀ b, r.2.partBody? = some b → b.item = item.uniqueId →
          Money.IsCents b.amount.toRat) := by
  apply serve_induction_of_mem hkeyed requests (motive := fun later ↦
    ∃ t', t' = { t with refunded := t'.refunded } ∧ Accounts later space id t' ∧
      ∀ item ∈ t.items, Follows (later.refundsOf space id) item
        (∀ r ∈ requests, ∀ b, r.2.partBody? = some b → b.item = item.uniqueId →
          Money.IsCents b.amount.toRat))
  · refine ⟨t, rfl, ⟨ht, ?_, ?_, ?_, ?_, ?_, ?_⟩, fun item _ ↦ ?_⟩
    · rw [hrefunded, hnone]
      rfl
    · rw [hrefunded]
      exact le_max_left _ _
    · rw [hrefunded]
      exact ⟨0, by simp⟩
    · simp [hnone]
    · simp [hnone]
    · simp [hnone]
    · rw [hnone]
      exact follows_nil item _
  · rintro later r hr hlater - ⟨t', hsame, haccounts, hfollows⟩
    have hsmall' := hsmall.congr hsame
    obtain ⟨refunded, hnext⟩ := haccounts.handle hlater hsmall' file r.1 r.2
    refine ⟨_, by rw [hsame], hnext, fun item hitem ↦ ?_⟩
    have hitem' : t'.item? item.uniqueId = some item := by
      rw [Transaction.item?_congr hsame]
      exact Transaction.item?_of_mem hdistinct hitem
    exact (hfollows item hitem).handle haccounts hlater hsmall' hitem' file r.1 r.2
      fun hwhole b ↦ hwhole r hr b

/-- **The report against the money booked.**  After any sequence of requests every line item has a
row.  If only parts in whole cents were asked for of it, the row offers the value of the line item
without what was booked on it, between nothing and what is left of the transaction.  Otherwise the
row is away from that by at most half a cent for each part that was booked and another half. -/
theorem serve_report (file : SettingsFile) (hkeyed : g.Keyed) (requests : List (String × Request))
    (ht : g.transaction? space id = some t) (hnone : g.refundsOf space id = [])
    (hrefunded : t.refunded.toRat = 0) (hdistinct : (t.items.map (·.uniqueId)).Nodup)
    (hcaptured : Money.IsCents t.captured.toRat) (hlimit : |t.captured.toRat| < 10 ^ 9)
    (hprices : ∀ item ∈ t.items, 0 ≤ item.unitPrice ∧ Money.IsCents item.unitPrice.toRat ∧
      item.unitPrice.toRat < 10 ^ 9) :
    ∃ t' left rows refunds, (serve file g requests).transaction? space id = some t' ∧
      (serve file g requests).refundsOf space id = refunds ∧
      t'.refundableAmount = .ok left ∧ left.toRat = t.captured.toRat - t'.refunded.toRat ∧
      (serve file g requests).report space t' = .ok rows ∧
      List.Forall₂ (fun item row ↦ row.uniqueId = item.uniqueId ∧
        ((∀ r ∈ requests, ∀ b, r.2.partBody? = some b → b.item = item.uniqueId →
            Money.IsCents b.amount.toRat) →
          row.refundableAmount.toRat = unbooked refunds item left.toRat) ∧
        |row.refundableAmount.toRat - unbooked refunds item left.toRat| ≤
          (partsOf refunds item.uniqueId + 1) * (1 / 200 + 1 / 10 ^ 10)) t.items rows := by
  have hsmall : t.Small :=
    ⟨hcaptured, hlimit, fun item hitem ↦ (hprices item hitem).1,
      fun item hitem ↦ (hprices item hitem).2.1, fun item hitem ↦ (hprices item hitem).2.2⟩
  obtain ⟨t', hsame, haccounts, hfollows⟩ :=
    serve_follows file hkeyed requests ht hnone hrefunded hdistinct hsmall
  have hlater := hkeyed.of_extends (extends_serve file hkeyed requests)
  have hitems : t'.items = t.items := by rw [hsame]
  have hfixed : t'.captured = t.captured := by rw [hsame]
  have hsmall' := hsmall.congr hsame
  obtain ⟨left, hleft, hexact⟩ := Transaction.exists_refundableAmount_toRat
    hsmall'.captured_isCents haccounts.refunded_isCents (haccounts.left_room hsmall')
  obtain ⟨rows, hrows⟩ := exists_forall₂ fun item hitem ↦
    (hfollows item hitem).exists_row haccounts hsmall' (hitems ▸ hitem) left
  refine ⟨t', left, rows, _, haccounts.found, rfl, hleft, hfixed ▸ hexact, ?_,
    hrows.imp fun item row hrow ↦ hrow.2⟩
  refine Gateway.report_eq_ok.mpr ⟨left, hleft, ?_⟩
  rw [hlater.id_eq haccounts.found, hitems]
  exact hrows.imp fun item row hrow ↦ hrow.1

/-- Asks for half a cent of the value of the hat. -/
def refundHalfCent : Request :=
  post "create-partial-refund/"
    "\x7b\"transactionId\":42,\"refundableAmount\":0.005,\"lineItemId\":\"hat\"\x7d"

/-- The state after half a cent of the hat was refunded. -/
def afterHalfCent : Gateway :=
  serve oneSpace (Gateway.holding hatAndSock) [("one", refundHalfCent)]

/-- The refund of it, by a whole cent. -/
def halfCent : Refund :=
  ⟨1, 1, 42, .successful, ⟨false, 1, 2, by decide, Money.places_le_maxScale⟩, "refund_one",
    [⟨"hat", 0, ⟨false, 5, 3, by decide, Decimal.three_le_maxScale⟩⟩]⟩

/-- The row of the hat offers all of it. -/
def hatRow : RefundableItem :=
  ⟨"hat", "Hat", 1, 1, .ofUInt32 10, ⟨false, 1000, 2, by decide, Money.places_le_maxScale⟩⟩

/-- Half a cent of the hat is booked as a cent and leaves its row as it was, a cent too much. -/
theorem serve_report_halfCent :
    ∃ t' left rest, afterHalfCent.transaction? 1 42 = some t' ∧
      t'.refundableAmount = .ok left ∧ afterHalfCent.report 1 t' = .ok (hatRow :: rest) ∧
      hatRow.refundableAmount.toRat = 10 ∧
      unbooked (afterHalfCent.refundsOf 1 42) hat left.toRat = 999 / 100 ∧
      |hatRow.refundableAmount.toRat - unbooked (afterHalfCent.refundsOf 1 42) hat left.toRat| ≤
        2 * (1 / 200 + 1 / 10 ^ 10) := by
  have hsixty : hatAndSock.captured.toRat = 60 := Decimal.toRat_ofUInt32 60
  have hprices : ∀ item ∈ hatAndSock.items, 0 ≤ item.unitPrice ∧
      Money.IsCents item.unitPrice.toRat ∧ item.unitPrice.toRat < 10 ^ 9 := by
    intro item hitem
    obtain ⟨hnonneg, hcents, hle⟩ := RefundRequest.hatAndSock_prices item hitem
    exact ⟨hnonneg, hcents, hle.trans_lt (by norm_num)⟩
  obtain ⟨t', left, rows, refunds, ht', hrefunds, hleft, hexact, hreport, hrows⟩ :=
    serve_report oneSpace (Gateway.keyed_holding hatAndSock) [("one", refundHalfCent)]
      (rfl : (Gateway.holding hatAndSock).transaction? 1 42 = some hatAndSock) rfl
      Decimal.toRat_zero (by decide) (Money.isCents_of_scale_le (by decide))
      (by rw [hsixty]; norm_num) hprices
  change afterHalfCent.transaction? 1 42 = some t' at ht'
  change afterHalfCent.refundsOf 1 42 = refunds at hrefunds
  change afterHalfCent.report 1 t' = .ok rows at hreport
  obtain ⟨row, rest, ⟨-, -, hnear⟩, -, rfl⟩ := List.forall₂_cons_left_iff.mp hrows
  have hcent : afterHalfCent.refundsOf 1 42 = [halfCent] := by decide +kernel
  have hread : (afterHalfCent.transaction? 1 42).map (fun t ↦ (t.refunded,
      (afterHalfCent.report 1 t).toOption.bind (·.head?))) =
        some (halfCent.amount, some hatRow) := by decide +kernel
  rw [ht', Option.map_some, hreport, Option.some.injEq, Prod.mk.injEq] at hread
  obtain ⟨hrefunded, hhead⟩ := hread
  obtain rfl : row = hatRow := Option.some.inj hhead
  have hamount : halfCent.amount.toRat = 1 / 100 := by
    norm_num [Decimal.toRat_eq, Decimal.mantissa, halfCent]
  have hbooked : bookedOn [halfCent] hat.uniqueId = 1 / 100 := by
    rw [bookedOn, moved_singleton, if_pos (by decide), hamount]
  have hmoney : unbooked [halfCent] hat left.toRat = 999 / 100 := by
    rw [unbooked, hat_value, hbooked, hexact, hsixty, hrefunded, hamount]
    norm_num
  have hone : partsOf [halfCent] hat.uniqueId = 1 := by decide
  rw [← hrefunds, hcent, hone] at hnear
  rw [hcent]
  refine ⟨t', left, rest, ht', hleft, hreport, ?_, hmoney, hnear.trans_eq (by norm_num)⟩
  norm_num [Decimal.toRat_eq, Decimal.mantissa, hatRow]

end Http
end ShopPayments
