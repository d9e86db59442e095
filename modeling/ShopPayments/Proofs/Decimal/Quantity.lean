import Mathlib.Algebra.Order.Field.Rat
import Mathlib.Data.Rat.Lemmas
import Mathlib.Tactic.FieldSimp
import Mathlib.Tactic.Linarith
import Mathlib.Tactic.NormNum
import Mathlib.Tactic.Positivity
import Mathlib.Tactic.Ring
import ShopPayments.Decimal.Arithmetic

/-!
# Decimals as rational numbers

Every decimal stands for a rational number, its quantity.  Comparison of decimals is comparison
of their quantities, and the plain zero, the sign change and whole counts have the quantities one
expects.  Everything about rounding and about sums of money is said of quantities.
-/

namespace ShopPayments

theorem tenPow_eq (n : ℕ) : tenPow n = 10 ^ n := rfl

namespace Decimal

theorem one_le_maxScale : 1 ≤ maxScale := by decide

theorem two_le_maxScale : 2 ≤ maxScale := by decide

theorem three_le_maxScale : 3 ≤ maxScale := by decide

theorem toRat_eq (d : Decimal) : d.toRat = d.mantissa / (10 : ℚ) ^ d.scale := by
  simp [toRat, Rat.mkRat_eq_div, tenPow_eq]

/-- Multiplying out the two denominators compares the quantities. -/
theorem shifted_le_shifted_iff (a b : Decimal) :
    a.shifted b.scale ≤ b.shifted a.scale ↔ a.toRat ≤ b.toRat := by
  rw [toRat_eq, toRat_eq, div_le_div_iff₀ (by positivity) (by positivity)]
  simp only [shifted, tenPow_eq]
  exact_mod_cast Iff.rfl

theorem le_iff_toRat_le {a b : Decimal} : a ≤ b ↔ a.toRat ≤ b.toRat :=
  shifted_le_shifted_iff a b

theorem lt_iff_toRat_lt {a b : Decimal} : a < b ↔ a.toRat < b.toRat := by
  have hnot : a < b ↔ ¬ b.shifted a.scale ≤ a.shifted b.scale := Int.not_le.symm
  rw [hnot, shifted_le_shifted_iff, not_le]

theorem not_lt_iff_le {a b : Decimal} : ¬ a < b ↔ b ≤ a := by
  rw [lt_iff_toRat_lt, le_iff_toRat_le, not_lt]

theorem toRat_max (a b : Decimal) : (a.max b).toRat = Max.max a.toRat b.toRat := by
  unfold Decimal.max
  split
  next hlt => exact (max_eq_right (lt_iff_toRat_lt.mp hlt).le).symm
  next hle => exact (max_eq_left (le_iff_toRat_le.mp (not_lt_iff_le.mp hle))).symm

theorem toRat_min (a b : Decimal) : (a.min b).toRat = Min.min a.toRat b.toRat := by
  unfold Decimal.min
  split
  next hlt => exact (min_eq_right (lt_iff_toRat_lt.mp hlt).le).symm
  next hle => exact (min_eq_left (le_iff_toRat_le.mp (not_lt_iff_le.mp hle))).symm

theorem same_iff_toRat_eq {a b : Decimal} : a.Same b ↔ a.toRat = b.toRat := by
  have hboth : a.Same b ↔ a.shifted b.scale ≤ b.shifted a.scale ∧
      b.shifted a.scale ≤ a.shifted b.scale := Int.le_antisymm_iff
  rw [hboth, shifted_le_shifted_iff, shifted_le_shifted_iff, le_antisymm_iff]

@[simp]
theorem toRat_zero : (0 : Decimal).toRat = 0 := by
  rw [toRat_eq]
  exact zero_div _

theorem mantissa_neg (d : Decimal) : (-d).mantissa = -d.mantissa := by
  change (neg d).mantissa = -d.mantissa
  cases hsign : d.negative <;> simp [neg, mantissa, hsign]

@[simp]
theorem toRat_neg (d : Decimal) : (-d).toRat = -d.toRat := by
  rw [toRat_eq, toRat_eq, mantissa_neg, Int.cast_neg, neg_div]
  rfl

@[simp]
theorem toRat_ofUInt32 (n : UInt32) : (ofUInt32 n).toRat = n.toNat := by
  rw [toRat_eq]
  simp [ofUInt32, mantissa]

theorem natAbs_mantissa (d : Decimal) : d.mantissa.natAbs = d.magnitude := by
  unfold mantissa
  split <;> simp

theorem isZero_iff_toRat_eq_zero (d : Decimal) : d.isZero = true ↔ d.toRat = 0 := by
  rw [toRat_eq, div_eq_zero_iff, or_iff_left (by positivity), Int.cast_eq_zero,
    ← Int.natAbs_eq_zero, natAbs_mantissa]
  simp [isZero]

theorem mantissa_signed (negative : Bool) (magnitude scale : ℕ) (hmagnitude hscale) :
    (signed negative magnitude scale hmagnitude hscale).mantissa =
      if negative then -(magnitude : ℤ) else magnitude := by
  cases negative <;> cases magnitude <;> simp [signed, mantissa]

theorem toRat_signed (negative : Bool) (magnitude scale : ℕ) (hmagnitude hscale) :
    (signed negative magnitude scale hmagnitude hscale).toRat =
      (if negative then -(magnitude : ℚ) else magnitude) / 10 ^ scale := by
  rw [toRat_eq, mantissa_signed]
  cases negative <;> simp [signed]

/-- A zero is not negative, whatever its sign says. -/
theorem toRat_nonneg_iff (d : Decimal) : 0 ≤ d ↔ 0 ≤ d.toRat := by
  rw [le_iff_toRat_le, toRat_zero]

theorem toRat_pos_iff (d : Decimal) : 0 < d ↔ 0 < d.toRat := by
  rw [lt_iff_toRat_lt, toRat_zero]

theorem toRat_neg_iff (d : Decimal) : d < 0 ↔ d.toRat < 0 := by
  rw [lt_iff_toRat_lt, toRat_zero]

theorem negative_eq_false_of_pos {d : Decimal} (h : 0 < d.toRat) : d.negative = false := by
  by_contra hnegative
  have hmantissa : (d.mantissa : ℚ) ≤ 0 := by
    simp [mantissa, Bool.eq_true_of_not_eq_false hnegative]
  rw [toRat_eq] at h
  exact absurd h (not_lt.mpr (div_nonpos_of_nonpos_of_nonneg hmantissa (by positivity)))

theorem toRat_eq_of_pos {d : Decimal} (h : 0 < d.toRat) :
    d.toRat = d.magnitude / 10 ^ d.scale := by
  rw [toRat_eq]
  simp [mantissa, negative_eq_false_of_pos h]

theorem toRat_pos_of_not_isZero {d : Decimal} (h : 0 ≤ d.toRat) (hzero : ¬ d.isZero = true) :
    0 < d.toRat := by
  refine lt_of_le_of_ne h ?_
  rw [ne_comm, ne_eq, ← isZero_iff_toRat_eq_zero]
  exact hzero

end Decimal
end ShopPayments
