import Mathlib.Data.Nat.Find
import ShopPayments.Proofs.Decimal.Quotient
import ShopPayments.Proofs.Decimal.Sum

/-!
# What digits leave out

Of a quantity up to the largest one a decimal keeps all but what a quotient of that size may lose
(`Stores.abs_sub_le_tolerance`).  So a product by a count, and a percentage, which is a product that
is divided by a hundred, are off by a share of their size that is far below a cent.
-/

namespace ShopPayments
namespace Decimal

variable {d scaled : Decimal} {x : ℚ}

/-- The most places at which a quantity has room for a neighbour. -/
theorem exists_fullest (hroom : |x| + 1 < magnitudeBound) :
    ∃ places ≤ maxScale, (|x| + 1) * 10 ^ places < magnitudeBound ∧
      (places = maxScale ∨ magnitudeBound ≤ (|x| + 1) * 10 ^ (places + 1)) := by
  classical
  let Fits (places : ℕ) : Prop := (|x| + 1) * 10 ^ places < magnitudeBound
  have hplain : Fits 0 := by simpa [Fits] using hroom
  refine ⟨Nat.findGreatest Fits maxScale, Nat.findGreatest_le _,
    Nat.findGreatest_spec (Nat.zero_le _) hplain, ?_⟩
  rcases Nat.lt_or_ge (Nat.findGreatest Fits maxScale) maxScale with hless | hmost
  · exact .inr (not_lt.mp (Nat.findGreatest_is_greatest (Nat.lt_succ_self _) hless))
  · exact .inl (le_antisymm (Nat.findGreatest_le _) hmost)

/-- The largest quantity of either sign is kept as it is. -/
theorem Stores.toRat_eq_of_largest (h : d.Stores x) (hlargest : |x| + 1 = magnitudeBound) :
    d.toRat = x := by
  have habs : |x| = magnitudeBound - 1 := by linarith
  rcases eq_or_eq_neg_of_abs_eq habs with hx | hx
  · apply h.toRat_eq (e := .signed false (magnitudeBound - 1) 0 (by decide) (Nat.zero_le _))
    rw [toRat_signed, hx]
    norm_num [magnitudeBound]
  · apply h.toRat_eq (e := .signed true (magnitudeBound - 1) 0 (by decide) (Nat.zero_le _))
    rw [toRat_signed, hx]
    norm_num [magnitudeBound]

/-- A quantity is kept up to what a quotient of its size may lose. -/
theorem Stores.abs_sub_le_tolerance (h : d.Stores x) (hroom : |x| + 1 ≤ magnitudeBound) :
    |d.toRat - x| ≤ tolerance (|x| + 1) := by
  -- no neighbour of the largest quantity fits, so it is a case of its own
  rcases hroom.eq_or_lt with hlargest | hroom
  · rw [h.toRat_eq_of_largest hlargest, sub_self, abs_zero]
    exact tolerance_nonneg (by positivity)
  obtain ⟨places, hplaces, hfits, hfull⟩ := exists_fullest hroom
  refine (h.abs_sub_le hplaces hfits).trans ?_
  unfold tolerance
  rcases hfull with rfl | hfull
  · exact le_add_of_nonneg_right (by positivity)
  · have hunit : (1 : ℚ) / 10 ^ places ≤ 10 * (|x| + 1) / magnitudeBound := by
      rw [div_le_div_iff₀ (by positivity) (by norm_num [magnitudeBound]), one_mul]
      calc
        (magnitudeBound : ℚ) ≤ (|x| + 1) * 10 ^ (places + 1) := hfull
        _ = 10 * (|x| + 1) * 10 ^ places := by ring
    exact hunit.trans (le_add_of_nonneg_left (by positivity))

/-- The hundredth part of what is kept of a hundred times a quantity. -/
theorem abs_percentage_sub_le (h : scaled.Stores (100 * x))
    (hroom : 100 * |x| + 1 ≤ magnitudeBound) :
    |(scaled.divCount 100 (by decide)).toRat - x| ≤ 3 * (1 + |x|) / 10 ^ 28 := by
  have habs : |100 * x| = 100 * |x| := by rw [abs_mul, abs_of_pos (by norm_num)]
  have hproduct := h.abs_sub_le_tolerance (habs ▸ hroom)
  have hquotient : |(scaled.divCount 100 (by decide)).toRat - scaled.toRat / (100 : ℕ)| ≤
      tolerance (|scaled.toRat| / (100 : ℕ)) := abs_divCount_sub_le_abs (by decide)
  have hsize : |scaled.toRat| ≤ |100 * x| + |scaled.toRat - 100 * x| := by
    have htriangle := abs_sub_abs_le_abs_sub scaled.toRat (100 * x)
    linarith
  have hshare : |scaled.toRat / 100 - x| = |scaled.toRat - 100 * x| / 100 := by
    have hpart : scaled.toRat / 100 - x = (scaled.toRat - 100 * x) / 100 := by ring
    rw [hpart, abs_div, abs_of_pos (a := (100 : ℚ)) (by norm_num)]
  have hsum := abs_sub_le (scaled.divCount 100 (by decide)).toRat (scaled.toRat / 100) x
  have hx := abs_nonneg x
  unfold tolerance at hproduct hquotient
  rw [habs] at hproduct hsize
  norm_num [magnitudeBound, maxScale] at hproduct hquotient hsum ⊢
  linarith

end Decimal
end ShopPayments
