import ShopPayments.Proofs.Http.LineItems

/-!
# Two accounts of the same money

The parts of a line item are recorded twice: as cuts of its unit price, of any precision, and as
the amounts that were booked, each rounded to cents.  Both come from one product of the cut and the
quantity.  So every part moves the two accounts apart by as much as its rounding, and by what a sum
of cuts loses where it has no room for all digits (`Tracks.append`); everything else moves neither.
-/

namespace ShopPayments

/-! ## One refund -/

/-- What a refund does to a line item: nothing, or it gives units back and cuts nothing, or it cuts
the price of every unit and books the value of that in cents. -/
inductive Refund.Concerns (refund : Refund) (item : TransactionItem) : Prop
  | other (apart : ¬ refund.reduces item.uniqueId) : Concerns refund item
  | units (units : UInt32) (positive : 0 < units.toNat)
      (reductions_eq : refund.reductions = [⟨item.uniqueId, units, 0⟩]) : Concerns refund item
  | part (priceCut value : Decimal)
      (reductions_eq : refund.reductions = [⟨item.uniqueId, 0, priceCut⟩])
      (valued : (Decimal.ofUInt32 item.quantity).mul priceCut = .ok value)
      (amount_eq : refund.amount.toRat = (Money.round value).toRat) : Concerns refund item

theorem Refund.Concerns.of_isPartOf {refund : Refund} {item : TransactionItem}
    (h : refund.Concerns item) (hpart : refund.isPartOf item.uniqueId) :
    ∃ priceCut value, refund.reductions = [⟨item.uniqueId, 0, priceCut⟩] ∧
      (Decimal.ofUInt32 item.quantity).mul priceCut = .ok value ∧
      refund.amount.toRat = (Money.round value).toRat := by
  cases h with
  | other apart => exact absurd hpart (not_isPartOf_of_not_reduces apart)
  | units units positive reductions_eq =>
    exact absurd hpart (not_isPartOf_of_units reductions_eq positive)
  | part priceCut value reductions_eq valued amount_eq =>
    exact ⟨priceCut, value, reductions_eq, valued, amount_eq⟩

theorem Money.toRat_round_congr {d e : Decimal} (h : d.toRat = e.toRat) :
    (round d).toRat = (round e).toRat := le_antisymm (round_mono h.le) (round_mono h.ge)

/-- A part is booked at the value of its cut, in cents. -/
theorem RefundRequest.Names.amount_eq_round {t t' : Transaction} {request : RefundRequest}
    {itemId : String} {item : TransactionItem} {priceCut amount : Decimal}
    (hnames : request.Names t' none [⟨itemId, 0, priceCut⟩]) (hitem : t.item? itemId = some item)
    (h : request.value t = .ok amount) :
    ∃ value, (Decimal.ofUInt32 item.quantity).mul priceCut = .ok value ∧
      amount.toRat = (Money.round value).toRat := by
  obtain ⟨total, htotal, rfl⟩ :=
    (value_eq_ok_of_reduction hnames.amount_eq hnames.reductions_eq).mp h
  obtain ⟨value, hvalue, hsame⟩ := reductionValue_cut hitem htotal
  exact ⟨value, hvalue, Money.toRat_round_congr hsame⟩

theorem Http.Endpoint.Books.concerns {endpoint : Endpoint} {g after : Gateway} {space : UInt64}
    {t : Transaction} {request : RefundRequest} {total : Decimal} {refund : Refund}
    {item : TransactionItem} (h : endpoint.Books g space t request total refund after)
    (hitem : t.item? item.uniqueId = some item) : refund.Concerns item := by
  have hpriced := h.booked.priced
  cases h.asks with
  | units other units left found positive counted fits names =>
    have hreductions := h.booked.reductions_eq.trans names.reductions_eq
    by_cases hsame : other.uniqueId = item.uniqueId
    · exact .units units positive (hsame ▸ hreductions)
    · exact .other fun hreduces ↦ hsame ((Refund.reduces_iff hreductions _).mp hreduces)
  | amount amount left counted fits names =>
    have hreductions := h.booked.reductions_eq.trans names.reductions_eq
    exact .other (by simp [Refund.reduces, hreductions])
  | part other amount value nonempty found priced fits names =>
    have hreductions := h.booked.reductions_eq.trans names.reductions_eq
    by_cases hsame : other.uniqueId = item.uniqueId
    · rw [hsame, hitem] at found
      obtain rfl := Option.some.inj found
      obtain ⟨cut, hcut, hamount⟩ := names.amount_eq_round hitem hpriced
      exact .part _ cut hreductions hcut hamount
    · exact .other fun hreduces ↦ hsame ((Refund.reduces_iff hreductions _).mp hreduces)

/-! ## Both accounts -/

/-- The number of parts that were refunded of a line item. -/
def partsOf (refunds : List Refund) (itemId : String) : ℕ :=
  (refunds.filter (·.isPartOf itemId)).length

theorem partsOf_append_singleton (refunds : List Refund) (refund : Refund) (itemId : String) :
    partsOf (refunds ++ [refund]) itemId =
      partsOf refunds itemId + if refund.isPartOf itemId then 1 else 0 := by
  by_cases h : refund.isPartOf itemId <;> simp [partsOf, h]

theorem bookedParts_append_singleton (refunds : List Refund) (refund : Refund) (itemId : String) :
    bookedParts (refunds ++ [refund]) itemId =
      bookedParts refunds itemId + if refund.isPartOf itemId then refund.amount.toRat else 0 := by
  rw [bookedParts, bookedParts, moved_append, moved_singleton]

/-- The recorded cuts of a line item come to the parts that were booked, but for an error for each
of them. -/
def Tracks (refunds : List Refund) (item : TransactionItem) (error : ℚ) : Prop :=
  ∃ cuts, refundedCuts refunds item.quantity item.uniqueId = .ok cuts ∧
    |cuts.toRat - bookedParts refunds item.uniqueId| ≤ partsOf refunds item.uniqueId * error

theorem tracks_nil (item : TransactionItem) (error : ℚ) : Tracks [] item error :=
  ⟨0, rfl, by simp [bookedParts, moved, partsOf]⟩

theorem addCut_eq_ok {quantity : UInt32} {total next : Decimal} {r : Reduction} :
    addCut quantity total r = .ok next ↔
      ∃ value, cutValue quantity r = .ok value ∧ total.add value = .ok next := by
  unfold addCut
  simp only [bind_eq_ok]

/-- One more refund adds the cuts of its own reductions. -/
theorem refundedCuts_append_eq_ok {refunds more : List Refund} {quantity : UInt32}
    {itemId : String} {cuts next : Decimal}
    (hcuts : refundedCuts refunds quantity itemId = .ok cuts)
    (h : (reductionsOf more itemId).foldlM (addCut quantity) cuts = .ok next) :
    refundedCuts (refunds ++ more) quantity itemId = .ok next := by
  unfold refundedCuts at hcuts ⊢
  rw [reductionsOf_append, List.foldlM_append, hcuts]
  exact h

theorem reductionsOf_singleton_eq {refund : Refund} {r : Reduction}
    (hstate : refund.state ≠ .failed) (h : refund.reductions = [r]) :
    reductionsOf [refund] r.item = [r] := by
  rw [reductionsOf_singleton hstate, h]
  simp

namespace Tracks

variable {refunds : List Refund} {refund : Refund} {item : TransactionItem} {error : ℚ}

theorem of_not_reduces (h : Tracks refunds item error) (hnot : ¬ refund.reduces item.uniqueId) :
    Tracks (refunds ++ [refund]) item error := by
  obtain ⟨cuts, hcuts, herror⟩ := h
  refine ⟨cuts, refundedCuts_append_eq_ok hcuts ?_, ?_⟩
  · rw [Refund.reductionsOf_singleton_of_not_reduces hnot]
    rfl
  · rwa [bookedParts_append_singleton, partsOf_append_singleton,
      if_neg (Refund.not_isPartOf_of_not_reduces hnot),
      if_neg (Refund.not_isPartOf_of_not_reduces hnot), add_zero, add_zero]

/-- Units cut nothing. -/
theorem of_units (h : Tracks refunds item error) (hstate : refund.state ≠ .failed) {units : UInt32}
    (hpositive : 0 < units.toNat) (hreductions : refund.reductions = [⟨item.uniqueId, units, 0⟩]) :
    Tracks (refunds ++ [refund]) item error := by
  obtain ⟨cuts, hcuts, herror⟩ := h
  have hnot := Refund.not_isPartOf_of_units hreductions hpositive
  obtain ⟨value, hvalue⟩ : ∃ value, cutValue item.quantity ⟨item.uniqueId, units, 0⟩ = .ok value :=
    Decimal.exists_mul (by norm_num [Decimal.magnitudeBound])
  have hnone : value.toRat = 0 := Decimal.toRat_mul_eq_zero hvalue (.inr Decimal.toRat_zero)
  obtain ⟨next, hnext⟩ : ∃ next, cuts.add value = .ok next := by
    apply Decimal.exists_add
    rw [hnone, add_zero]
    exact Decimal.toRat_abs_le cuts
  refine ⟨next, refundedCuts_append_eq_ok hcuts ?_, ?_⟩
  · rw [reductionsOf_singleton_eq hstate hreductions, List.foldlM_cons,
      addCut_eq_ok.mpr ⟨value, hvalue, hnext⟩]
    rfl
  · rwa [bookedParts_append_singleton, partsOf_append_singleton, if_neg hnot, if_neg hnot,
      add_zero, add_zero, Decimal.toRat_add_of_right_eq_zero hnext hnone]

/-- A part moves the accounts apart by what its own rounding and that of the sum move. -/
theorem of_part (h : Tracks refunds item error) (hstate : refund.state ≠ .failed)
    {priceCut value : Decimal}
    (hreductions : refund.reductions = [⟨item.uniqueId, 0, priceCut⟩])
    (hvalue : (Decimal.ofUInt32 item.quantity).mul priceCut = .ok value) {places : ℕ} {rounding : ℚ}
    (hplaces : places ≤ Decimal.maxScale)
    (hrounding : |value.toRat - refund.amount.toRat| ≤ rounding)
    (herror : rounding + 1 / 10 ^ places ≤ error)
    (hbooked : 0 ≤ bookedParts refunds item.uniqueId) (hamount : 0 ≤ refund.amount.toRat)
    (hroom : (bookedParts refunds item.uniqueId + refund.amount.toRat +
      (partsOf refunds item.uniqueId + 1) * error + 1) * 10 ^ places < Decimal.magnitudeBound) :
    Tracks (refunds ++ [refund]) item error := by
  obtain ⟨cuts, hcuts, hdistance⟩ := h
  have hpart := Refund.isPartOf_of_cut hreductions
  have hwhole : unitsLeft item.quantity 0 = item.quantity := by
    apply UInt32.toNat_inj.mp
    rw [toNat_unitsLeft, UInt32.toNat_zero, Nat.sub_zero]
  have hcut : cutValue item.quantity ⟨item.uniqueId, 0, priceCut⟩ = .ok value := by
    unfold cutValue
    rw [hwhole]
    exact hvalue
  have hunit : (0 : ℚ) < 1 / 10 ^ places := by positivity
  have hsum : |cuts.toRat + value.toRat| ≤ bookedParts refunds item.uniqueId +
      refund.amount.toRat + (partsOf refunds item.uniqueId + 1) * error := by
    obtain ⟨hlow, hhigh⟩ := abs_le.mp hdistance
    obtain ⟨hlow', hhigh'⟩ := abs_le.mp hrounding
    rw [abs_le]
    constructor <;> linarith
  obtain ⟨next, hnext⟩ : ∃ next, cuts.add value = .ok next := by
    apply Decimal.exists_add
    have hpow : (1 : ℚ) ≤ 10 ^ places := one_le_pow₀ (by norm_num)
    have hnonneg := (abs_nonneg _).trans hsum
    have hshort := (le_mul_of_one_le_right (by linarith) hpow).trans_lt hroom
    linarith
  have hkept : |next.toRat - (cuts.toRat + value.toRat)| ≤ 1 / 10 ^ places := by
    apply (Decimal.add_stores hnext).abs_sub_le hplaces
    refine lt_of_le_of_lt ?_ hroom
    gcongr
  refine ⟨next, refundedCuts_append_eq_ok hcuts ?_, ?_⟩
  · rw [reductionsOf_singleton_eq hstate hreductions, List.foldlM_cons,
      addCut_eq_ok.mpr ⟨value, hcut, hnext⟩]
    rfl
  · rw [bookedParts_append_singleton, partsOf_append_singleton, if_pos hpart, if_pos hpart]
    obtain ⟨hlow, hhigh⟩ := abs_le.mp hdistance
    obtain ⟨hlow', hhigh'⟩ := abs_le.mp hrounding
    obtain ⟨hlow'', hhigh''⟩ := abs_le.mp hkept
    push_cast
    rw [abs_le]
    constructor <;> linarith

/-- One more refund keeps the accounts together, whatever it does to the line item. -/
theorem append (h : Tracks refunds item error) (hstate : refund.state ≠ .failed)
    (hconcerns : refund.Concerns item) {places : ℕ} {rounding : ℚ}
    (hrounding : ∀ priceCut value, refund.reductions = [⟨item.uniqueId, 0, priceCut⟩] →
      (Decimal.ofUInt32 item.quantity).mul priceCut = .ok value →
      refund.amount.toRat = (Money.round value).toRat →
      |value.toRat - refund.amount.toRat| ≤ rounding)
    (hplaces : places ≤ Decimal.maxScale) (herror : rounding + 1 / 10 ^ places ≤ error)
    (hbooked : 0 ≤ bookedParts refunds item.uniqueId) (hamount : 0 ≤ refund.amount.toRat)
    (hroom : (bookedParts refunds item.uniqueId + refund.amount.toRat +
      (partsOf refunds item.uniqueId + 1) * error + 1) * 10 ^ places < Decimal.magnitudeBound) :
    Tracks (refunds ++ [refund]) item error := by
  cases hconcerns with
  | other apart => exact h.of_not_reduces apart
  | units units positive reductions_eq => exact h.of_units hstate positive reductions_eq
  | part priceCut value reductions_eq valued amount_eq =>
    exact h.of_part hstate reductions_eq valued hplaces
      (hrounding priceCut value reductions_eq valued amount_eq) herror hbooked hamount hroom

end Tracks
end ShopPayments
