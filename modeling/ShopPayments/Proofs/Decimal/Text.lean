import Mathlib.Data.List.Basic
import ShopPayments.Money
import ShopPayments.Proofs.Decimal.Quantity
import ShopPayments.Proofs.Text

/-!
# Texts of decimals

A plain text is a sign, digits and a point with as many digits behind it as the decimal has places,
so the text tells the decimal.  It has at most thirty characters and a minus.  Rates are written
without zeros at the end, where equal quantities are equal decimals: two rates have the same text
exactly if they are the same quantity, also when something follows that is set off by a hyphen.
-/

namespace ShopPayments
namespace Decimal

variable {a b : Decimal}

/-! ## Digits -/

/-- All digits of the text. -/
def digits (d : Decimal) : List Char := paddedDigits d.magnitude (d.scale + 1)

/-- The digits before the point. -/
def whole (d : Decimal) : List Char := d.digits.take (d.digits.length - d.scale)

/-- The digits behind the point. -/
def fraction (d : Decimal) : List Char := d.digits.drop (d.digits.length - d.scale)

/-- The text without its sign. -/
def unsignedText (d : Decimal) : List Char :=
  if d.scale = 0 then d.whole else d.whole ++ '.' :: d.fraction

theorem toList_text (d : Decimal) :
    d.text.toList = if d.negative then '-' :: d.unsignedText else d.unsignedText :=
  String.toList_ofList

theorem length_digits (d : Decimal) :
    d.digits.length = d.scale + 1 - (Nat.toDigits 10 d.magnitude).length +
      (Nat.toDigits 10 d.magnitude).length := by
  rw [digits, paddedDigits, List.length_append, List.length_replicate]

theorem scale_lt_length_digits (d : Decimal) : d.scale < d.digits.length := by
  rw [length_digits]
  omega

theorem length_digits_le (d : Decimal) : d.digits.length ≤ 29 := by
  have hscale : d.scale ≤ 28 := d.scale_le
  have hmagnitude : d.magnitude < 10 ^ 29 := d.magnitude_lt.trans_le (by decide)
  have hlength := (Nat.length_toDigits_le_iff (by decide) (by decide)).mpr hmagnitude
  rw [length_digits]
  omega

theorem isDigit_of_mem_paddedDigits {n width : ℕ} {c : Char} (h : c ∈ paddedDigits n width) :
    c.isDigit = true := by
  rcases List.mem_append.mp h with hzero | hdigit
  · rw [List.eq_of_mem_replicate hzero]
    decide
  · exact Nat.isDigit_of_mem_toDigits (by decide) (by decide) hdigit

theorem ofDigitChars_paddedDigits (n width : ℕ) :
    Nat.ofDigitChars 10 (paddedDigits n width) 0 = n := by
  rw [paddedDigits, Nat.ofDigitChars_append, Nat.ofDigitChars_replicate_zero, Nat.mul_zero,
    Nat.ofDigitChars_ten_toDigits]

theorem isDigit_of_mem_digits {d : Decimal} {c : Char} (h : c ∈ d.digits) : c.isDigit = true :=
  isDigit_of_mem_paddedDigits h

theorem ofDigitChars_digits (d : Decimal) : Nat.ofDigitChars 10 d.digits 0 = d.magnitude :=
  ofDigitChars_paddedDigits _ _

theorem whole_append_fraction (d : Decimal) : d.whole ++ d.fraction = d.digits :=
  List.take_append_drop _ _

theorem length_fraction (d : Decimal) : d.fraction.length = d.scale := by
  have := scale_lt_length_digits d
  rw [fraction, List.length_drop]
  omega

theorem whole_ne_nil (d : Decimal) : d.whole ≠ [] := by
  have := scale_lt_length_digits d
  rw [← List.length_pos_iff, whole, List.length_take]
  omega

theorem isDigit_of_mem_whole {d : Decimal} {c : Char} (h : c ∈ d.whole) : c.isDigit = true :=
  isDigit_of_mem_digits (List.mem_of_mem_take h)

theorem isDigit_of_mem_fraction {d : Decimal} {c : Char} (h : c ∈ d.fraction) :
    c.isDigit = true :=
  isDigit_of_mem_digits (List.mem_of_mem_drop h)

theorem unsignedText_ne_nil (d : Decimal) : d.unsignedText ≠ [] := by
  unfold unsignedText
  split
  · exact whole_ne_nil d
  · exact List.append_ne_nil_of_right_ne_nil _ (List.cons_ne_nil _ _)

theorem mem_unsignedText {d : Decimal} {c : Char} (h : c ∈ d.unsignedText) :
    c.isDigit = true ∨ c = '.' := by
  unfold unsignedText at h
  split at h
  · exact .inl (isDigit_of_mem_whole h)
  · rcases List.mem_append.mp h with hwhole | hrest
    · exact .inl (isDigit_of_mem_whole hwhole)
    · rcases List.mem_cons.mp hrest with hpoint | hfraction
      · exact .inr hpoint
      · exact .inl (isDigit_of_mem_fraction hfraction)

theorem notMem_unsignedText {d : Decimal} {c : Char} (hdigit : c.isDigit = false)
    (hpoint : c ≠ '.') : c ∉ d.unsignedText := by
  intro h
  rcases mem_unsignedText h with hisDigit | hispoint
  · exact Bool.false_ne_true (hdigit ▸ hisDigit)
  · exact hpoint hispoint

theorem length_unsignedText_le (d : Decimal) : d.unsignedText.length ≤ 30 := by
  have hdigits := length_digits_le d
  rw [← whole_append_fraction, List.length_append] at hdigits
  unfold unsignedText
  split
  · omega
  · rw [List.length_append, List.length_cons]
    omega

/-! ## The text tells the decimal -/

theorem point_mem_unsignedText_iff (d : Decimal) : '.' ∈ d.unsignedText ↔ d.scale ≠ 0 := by
  unfold unsignedText
  split
  next hscale =>
    refine iff_of_false (fun h ↦ ?_) (not_not_intro hscale)
    exact absurd (isDigit_of_mem_whole h) (by decide)
  next hscale => simp [hscale]

theorem unsignedText_inj (h : a.unsignedText = b.unsignedText) :
    a.magnitude = b.magnitude ∧ a.scale = b.scale := by
  have hparts : a.whole = b.whole ∧ a.fraction = b.fraction := by
    have hpoint := point_mem_unsignedText_iff a
    rw [h, point_mem_unsignedText_iff b] at hpoint
    unfold unsignedText at h
    by_cases ha : a.scale = 0
    · have hb : b.scale = 0 := not_not.mp fun hb ↦ hpoint.mp hb ha
      have hnone : ∀ d : Decimal, d.scale = 0 → d.fraction = [] := fun d hd ↦
        List.length_eq_zero_iff.mp ((length_fraction d).trans hd)
      rw [if_pos ha, if_pos hb] at h
      exact ⟨h, (hnone a ha).trans (hnone b hb).symm⟩
    · rw [if_neg ha, if_neg (hpoint.mpr ha)] at h
      have hfree : ∀ d : Decimal, '.' ∉ d.whole := fun d hmem ↦
        absurd (isDigit_of_mem_whole hmem) (by decide)
      exact Text.append_cons_inj (hfree a) (hfree b) h
  constructor
  · rw [← ofDigitChars_digits, ← whole_append_fraction, hparts.1, hparts.2,
      whole_append_fraction, ofDigitChars_digits]
  · rw [← length_fraction, hparts.2, length_fraction]

theorem eq_of_unsignedText_eq (hsign : a.negative = b.negative)
    (h : a.unsignedText = b.unsignedText) : a = b := by
  obtain ⟨hmagnitude, hscale⟩ := unsignedText_inj h
  cases a
  cases b
  simp_all

/-- A text that begins like another one with a minus has a minus itself. -/
theorem cons_append_ne_unsignedText (d : Decimal) (s t : List Char) :
    '-' :: s ≠ d.unsignedText ++ t := by
  intro h
  obtain ⟨first, rest, hunsigned⟩ := List.exists_cons_of_ne_nil (unsignedText_ne_nil d)
  rw [hunsigned, List.cons_append] at h
  have hminus : '-' ∉ d.unsignedText := notMem_unsignedText (by decide) (by decide)
  apply hminus
  rw [hunsigned, (List.cons.inj h).1]
  exact List.mem_cons_self

/-- Where a character follows that is no part of a decimal, the text ends. -/
theorem text_append_cons_inj {c : Char} (hdigit : c.isDigit = false) (hpoint : c ≠ '.')
    {s t : List Char} :
    a.text.toList ++ c :: s = b.text.toList ++ c :: t ↔ a = b ∧ s = t := by
  have hfree : ∀ d : Decimal, c ∉ d.unsignedText := fun d ↦ notMem_unsignedText hdigit hpoint
  have hends (h : a.unsignedText ++ c :: s = b.unsignedText ++ c :: t) :
      a.unsignedText = b.unsignedText ∧ s = t :=
    Text.append_cons_inj (hfree a) (hfree b) h
  constructor
  · intro h
    rw [toList_text, toList_text] at h
    cases ha : a.negative <;> cases hb : b.negative <;>
      simp only [ha, hb, Bool.false_eq_true, if_true, if_false, List.cons_append] at h
    · exact ⟨eq_of_unsignedText_eq (ha.trans hb.symm) (hends h).1, (hends h).2⟩
    · exact absurd h.symm (cons_append_ne_unsignedText a _ _)
    · exact absurd h (cons_append_ne_unsignedText b _ _)
    · have hrest := hends (List.cons.inj h).2
      exact ⟨eq_of_unsignedText_eq (ha.trans hb.symm) hrest.1, hrest.2⟩
  · rintro ⟨rfl, rfl⟩
    rfl

theorem mem_text {d : Decimal} {c : Char} (h : c ∈ d.text.toList) :
    c = '-' ∨ c.isDigit = true ∨ c = '.' := by
  rw [toList_text] at h
  split at h
  · exact (List.mem_cons.mp h).imp_right mem_unsignedText
  · exact .inr (mem_unsignedText h)

theorem text_injective : Function.Injective text := by
  intro a b h
  have hhyphen : a.text.toList ++ '-' :: [] = b.text.toList ++ '-' :: [] := by rw [h]
  exact ((text_append_cons_inj (by decide) (by decide)).mp hhyphen).1

/-! ## The fewest places -/

theorem trimZeros_div (magnitude scale : ℕ) :
    ((trimZeros magnitude scale).1 : ℚ) / 10 ^ (trimZeros magnitude scale).2 =
      magnitude / 10 ^ scale := by
  induction scale generalizing magnitude with
  | zero => simp [trimZeros]
  | succ scale ih =>
    unfold trimZeros
    split
    next hzero =>
      have hten : ((magnitude / 10 : ℕ) : ℚ) * 10 = magnitude := by
        exact_mod_cast Nat.div_mul_cancel (Nat.dvd_of_mod_eq_zero hzero)
      rw [ih, ← hten, pow_succ, mul_div_mul_right _ _ (by norm_num)]
    next => rfl

theorem trimZeros_last (magnitude scale : ℕ) :
    (trimZeros magnitude scale).2 = 0 ∨ (trimZeros magnitude scale).1 % 10 ≠ 0 := by
  induction scale generalizing magnitude with
  | zero => exact .inl rfl
  | succ scale ih =>
    unfold trimZeros
    split
    next => exact ih _
    next hlast => exact .inr hlast

theorem toRat_normalize (d : Decimal) : d.normalize.toRat = d.toRat := by
  have htrim := trimZeros_div d.magnitude d.scale
  rw [normalize, toRat_signed, toRat_eq, mantissa]
  cases d.negative
  · simpa using htrim
  · simpa [neg_div] using htrim

/-- No sign on a zero and no zero at the end of the fraction. -/
structure Trimmed (d : Decimal) : Prop where
  sign : d.negative = true → d.magnitude ≠ 0
  last : d.scale = 0 ∨ d.magnitude % 10 ≠ 0

theorem trimmed_normalize (d : Decimal) : d.normalize.Trimmed where
  sign h := by simpa [normalize, signed] using (Bool.and_eq_true_iff.mp h).2
  last := trimZeros_last d.magnitude d.scale

theorem Trimmed.negative_iff (h : a.Trimmed) : a.negative = true ↔ a.toRat < 0 := by
  rw [toRat_eq, div_lt_iff₀ (by positivity), zero_mul, Int.cast_lt_zero, mantissa]
  constructor
  · intro hnegative
    have hpos := Nat.pos_of_ne_zero (h.sign hnegative)
    rw [if_pos hnegative]
    omega
  · intro hmantissa
    by_contra hnot
    rw [if_neg hnot] at hmantissa
    omega

theorem Trimmed.scale_le (h : a.Trimmed)
    (heq : a.magnitude * tenPow b.scale = b.magnitude * tenPow a.scale) : a.scale ≤ b.scale := by
  by_contra hlong
  obtain ⟨more, hmore⟩ := Nat.exists_eq_add_of_lt (not_le.mp hlong)
  have hten : a.magnitude = b.magnitude * tenPow more * 10 := by
    apply Nat.eq_of_mul_eq_mul_right (tenPow_pos b.scale)
    calc
      a.magnitude * tenPow b.scale = b.magnitude * tenPow a.scale := heq
      _ = b.magnitude * (tenPow b.scale * (tenPow more * 10)) := by
        rw [hmore, Nat.add_assoc, tenPow_add, tenPow_succ]
      _ = b.magnitude * tenPow more * 10 * tenPow b.scale := by ring
  rcases h.last with hnone | hlast
  · omega
  · exact hlast (hten ▸ Nat.mul_mod_left _ _)

theorem Trimmed.eq_of_toRat_eq (ha : a.Trimmed) (hb : b.Trimmed) (h : a.toRat = b.toRat) :
    a = b := by
  have hmantissa : a.mantissa * tenPow b.scale = b.mantissa * tenPow a.scale :=
    same_iff_toRat_eq.mpr h
  have hmagnitude : a.magnitude * tenPow b.scale = b.magnitude * tenPow a.scale := by
    rw [← natAbs_mantissa a, ← natAbs_mantissa b]
    simpa [Int.natAbs_mul] using congrArg Int.natAbs hmantissa
  have hscale : a.scale = b.scale :=
    le_antisymm (ha.scale_le hmagnitude) (hb.scale_le hmagnitude.symm)
  rw [hscale] at hmagnitude
  have hmagnitudes : a.magnitude = b.magnitude :=
    Nat.eq_of_mul_eq_mul_right (tenPow_pos _) hmagnitude
  have hsign : a.negative = b.negative := by
    rw [Bool.eq_iff_iff, ha.negative_iff, hb.negative_iff, h]
  cases a
  cases b
  simp_all

theorem normalize_eq_iff : a.normalize = b.normalize ↔ a.toRat = b.toRat := by
  constructor
  · intro h
    rw [← toRat_normalize a, h, toRat_normalize]
  · intro h
    apply (trimmed_normalize a).eq_of_toRat_eq (trimmed_normalize b)
    rw [toRat_normalize, toRat_normalize, h]

end Decimal

/-! ## Rates -/

namespace Money

variable {rate rate' : Decimal}

theorem rateText_eq_iff : rateText rate = rateText rate' ↔ rate.toRat = rate'.toRat := by
  rw [← Decimal.normalize_eq_iff]
  exact Decimal.text_injective.eq_iff

theorem size_rateText_le (rate : Decimal) : Text.size (rateText rate) ≤ 31 := by
  have hunsigned := Decimal.length_unsignedText_le rate.normalize
  rw [Text.size, rateText, Decimal.toList_text]
  split
  · rw [List.length_cons]
    omega
  · omega

theorem rateText_ne_nil (rate : Decimal) : (rateText rate).toList ≠ [] := by
  rw [rateText, Decimal.toList_text]
  split
  · exact List.cons_ne_nil _ _
  · exact Decimal.unsignedText_ne_nil rate.normalize

/-- Only a minus makes the text of a rate longer than thirty characters. -/
theorem neg_of_lt_size_rateText (h : 30 < Text.size (rateText rate)) : rate.toRat < 0 := by
  rw [← Decimal.toRat_normalize, ← (Decimal.trimmed_normalize rate).negative_iff]
  by_contra hnot
  rw [Text.size, rateText, Decimal.toList_text, if_neg hnot] at h
  exact absurd (Decimal.length_unsignedText_le rate.normalize) (not_le.mpr h)

/-- Where a character follows that is no part of a decimal, the text of a rate ends. -/
theorem rateText_append_cons_inj {c : Char} (hdigit : c.isDigit = false) (hpoint : c ≠ '.')
    {s t : List Char} :
    (rateText rate).toList ++ c :: s = (rateText rate').toList ++ c :: t ↔
      rate.toRat = rate'.toRat ∧ s = t := by
  rw [← Decimal.normalize_eq_iff]
  exact Decimal.text_append_cons_inj hdigit hpoint

end Money
end ShopPayments
