import ShopPayments.Proofs.Decimal.Fit

/-!
# Sums, differences and products of decimals

Each operation keeps the exact sum, difference or product of the quantities as far as there is
room (`add_stores`, `sub_stores`, `mul_stores`), zero operands and vanishing products included.
Order and exactness of the results are then those of `Decimal.Stores`.  No operation overflows
as long as the exact result is within the range of decimals.
-/

namespace ShopPayments
namespace Decimal

variable {a b c : Decimal}

theorem mantissaAt_div (d : Decimal) {places : ℕ} (h : d.scale ≤ places) :
    (d.mantissaAt places : ℚ) / 10 ^ places = d.toRat := by
  obtain ⟨more, rfl⟩ := Nat.exists_eq_add_of_le h
  rw [mantissaAt, shifted, Nat.add_sub_cancel_left, tenPow_eq, toRat_eq, pow_add]
  push_cast
  rw [mul_div_mul_right _ _ (by positivity)]

theorem add_mantissaAt_div (a b : Decimal) :
    ((a.mantissaAt (Nat.max a.scale b.scale) + b.mantissaAt (Nat.max a.scale b.scale) : ℤ) : ℚ) /
      10 ^ Nat.max a.scale b.scale = a.toRat + b.toRat := by
  rw [Int.cast_add, add_div, mantissaAt_div a (Nat.le_max_left _ _),
    mantissaAt_div b (Nat.le_max_right _ _)]

theorem sub_mantissaAt_div (a b : Decimal) :
    ((a.mantissaAt (Nat.max a.scale b.scale) - b.mantissaAt (Nat.max a.scale b.scale) : ℤ) : ℚ) /
      10 ^ Nat.max a.scale b.scale = a.toRat - b.toRat := by
  rw [Int.cast_sub, sub_div, mantissaAt_div a (Nat.le_max_left _ _),
    mantissaAt_div b (Nat.le_max_right _ _)]

theorem mul_mantissa_div (a b : Decimal) :
    ((a.mantissa * b.mantissa : ℤ) : ℚ) / 10 ^ (a.scale + b.scale) = a.toRat * b.toRat := by
  rw [Int.cast_mul, pow_add, mul_div_mul_comm, ← toRat_eq, ← toRat_eq]

/-! ## Results -/

theorem add_stores (h : a.add b = .ok c) : c.Stores (a.toRat + b.toRat) := by
  unfold add at h
  split at h
  next hzero =>
    rw [(isZero_iff_toRat_eq_zero a).mp hzero, zero_add, ← Except.ok.inj h]
    exact stores_self b
  next =>
    split at h
    next hzero =>
      rw [(isZero_iff_toRat_eq_zero b).mp hzero, add_zero, ← Except.ok.inj h]
      exact stores_self a
    next =>
      dsimp only at h
      split at h
      next d hfit =>
        rw [← add_mantissaAt_div, ← Except.ok.inj h]
        exact stores_of_fit hfit
      next => simp at h

theorem sub_stores (h : a.sub b = .ok c) : c.Stores (a.toRat - b.toRat) := by
  unfold sub at h
  split at h
  next hzero =>
    rw [(isZero_iff_toRat_eq_zero a).mp hzero, zero_sub, ← Except.ok.inj h]
    split
    next hzero' =>
      rw [(isZero_iff_toRat_eq_zero b).mp hzero', neg_zero]
      rw [isZero_iff_toRat_eq_zero] at hzero'
      exact hzero' ▸ stores_self b
    next =>
      rw [← toRat_neg]
      exact stores_self (-b)
  next =>
    split at h
    next hzero =>
      rw [(isZero_iff_toRat_eq_zero b).mp hzero, sub_zero, ← Except.ok.inj h]
      exact stores_self a
    next =>
      dsimp only at h
      split at h
      next d hfit =>
        rw [← sub_mantissaAt_div, ← Except.ok.inj h]
        exact stores_of_fit hfit
      next => simp at h

/-- Less than half a unit of the last place there can be leaves nothing. -/
theorem fit_eq_zero {m : ℤ} {scale : ℕ} (hscale : maxScale ≤ scale)
    (h : 2 * m.natAbs < tenPow (scale - maxScale)) :
    ∃ d, fit m scale = some d ∧ d.toRat = 0 := by
  have hrounded : roundDiv .toEven m.natAbs (tenPow (scale - maxScale)) = 0 := by
    have htwo := two_mul_roundDiv_le .toEven m.natAbs (tenPow_pos (scale - maxScale))
    by_contra hne
    have hone := Nat.mul_le_mul_right (tenPow (scale - maxScale)) (Nat.one_le_iff_ne_zero.mpr hne)
    omega
  have hroom : m.natAbs / tenPow (scale - maxScale) < magnitudeBound := by
    rw [Nat.div_eq_of_lt (by omega)]
    decide
  have hplaces : roomiestScale m.natAbs scale (Nat.min scale maxScale) = some maxScale := by
    rw [show Nat.min scale maxScale = maxScale from Nat.min_eq_right hscale]
    exact if_pos hroom
  have hkept : fitMagnitude m.natAbs scale = some (0, maxScale) := by
    simp only [fitMagnitude, hplaces, hrounded]
    rfl
  refine ⟨signed (decide (m < 0)) 0 maxScale (by decide) le_rfl, ?_, ?_⟩
  · simp only [fit, hkept, Option.bind_eq_bind, Option.bind_some]
    rfl
  · rw [toRat_signed]
    simp

theorem mul_stores (h : a.mul b = .ok c) : c.Stores (a.toRat * b.toRat) := by
  unfold mul at h
  split at h
  next hzero =>
    rw [Bool.or_eq_true, isZero_iff_toRat_eq_zero, isZero_iff_toRat_eq_zero,
      ← mul_eq_zero] at hzero
    rw [hzero, ← Except.ok.inj h, ← toRat_zero]
    exact stores_self 0
  next =>
    split at h
    next hshort =>
      simp only [isShort, Bool.and_eq_true, decide_eq_true_eq] at hshort
      obtain ⟨⟨ha, hb⟩, hscale⟩ := hshort
      have hproduct : (a.mantissa * b.mantissa).natAbs ≤ UInt32.size * UInt32.size := by
        rw [Int.natAbs_mul, natAbs_mantissa, natAbs_mantissa]
        exact Nat.mul_le_mul ha.le hb.le
      have hten : tenPow (vanishingScale - maxScale) ≤ tenPow (a.scale + b.scale - maxScale) :=
        tenPow_le_tenPow (Nat.sub_le_sub_right hscale maxScale)
      have hsize : 2 * (UInt32.size * UInt32.size) < tenPow (vanishingScale - maxScale) := by
        decide
      obtain ⟨d, hfit, hd⟩ := fit_eq_zero (m := a.mantissa * b.mantissa)
        ((by decide : maxScale ≤ vanishingScale).trans hscale) (by omega)
      rw [← mul_mantissa_div, ← Except.ok.inj h]
      exact (stores_of_fit hfit).congr (by rw [hd, toRat_zero])
    next =>
      split at h
      next d hfit =>
        rw [← mul_mantissa_div, ← Except.ok.inj h]
        exact stores_of_fit hfit
      next => simp at h

theorem toRat_add_of_left_eq_zero (h : a.add b = .ok c) (ha : a.toRat = 0) :
    c.toRat = b.toRat := by
  have hstores := add_stores h
  rw [ha, zero_add] at hstores
  exact hstores.toRat_eq rfl

theorem toRat_add_of_right_eq_zero (h : a.add b = .ok c) (hb : b.toRat = 0) :
    c.toRat = a.toRat := by
  have hstores := add_stores h
  rw [hb, add_zero] at hstores
  exact hstores.toRat_eq rfl

theorem toRat_mul_eq_zero (h : a.mul b = .ok c) (hzero : a.toRat = 0 ∨ b.toRat = 0) :
    c.toRat = 0 := by
  have hstores := mul_stores h
  rw [mul_eq_zero.mpr hzero] at hstores
  exact hstores.toRat_eq toRat_zero

/-! ## Totality -/

theorem exists_add (h : |a.toRat + b.toRat| ≤ magnitudeBound - 1) : ∃ d, a.add b = .ok d := by
  rw [← add_mantissaAt_div] at h
  obtain ⟨d, hd⟩ := exists_fit h
  unfold add
  split
  · exact ⟨_, rfl⟩
  · split
    · exact ⟨_, rfl⟩
    · exact ⟨d, by simp only [hd]⟩

theorem exists_sub (h : |a.toRat - b.toRat| ≤ magnitudeBound - 1) : ∃ d, a.sub b = .ok d := by
  rw [← sub_mantissaAt_div] at h
  obtain ⟨d, hd⟩ := exists_fit h
  unfold sub
  split
  · exact ⟨_, rfl⟩
  · split
    · exact ⟨_, rfl⟩
    · exact ⟨d, by simp only [hd]⟩

theorem exists_mul (h : |a.toRat * b.toRat| ≤ magnitudeBound - 1) : ∃ d, a.mul b = .ok d := by
  rw [← mul_mantissa_div] at h
  obtain ⟨d, hd⟩ := exists_fit h
  unfold mul
  split
  · exact ⟨_, rfl⟩
  · split
    · exact ⟨_, rfl⟩
    · exact ⟨d, by simp only [hd]⟩

end Decimal
end ShopPayments
