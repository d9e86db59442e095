import Mathlib.Algebra.Order.Group.MinMax
import ShopPayments.Money
import ShopPayments.Proofs.Decimal.Sum

/-!
# Amounts in cents

Rounding to cents gives a whole number of cents, keeps the order of amounts and leaves a whole
number of cents as it is.  A whole number of cents below an amount therefore stays below the
rounded amount, and one above it stays above.  Rounding moves an amount by at most half a cent, and
what is less than that is rounded to nothing.  Sums of cents that have room are exact.
-/

namespace ShopPayments
namespace Money

/-- The quantity has at most two places. -/
def IsCents (x : ℚ) : Prop := ∃ n : ℤ, x = n / 100

theorem IsCents.add {x y : ℚ} (hx : IsCents x) (hy : IsCents y) : IsCents (x + y) := by
  obtain ⟨m, rfl⟩ := hx
  obtain ⟨n, rfl⟩ := hy
  exact ⟨m + n, by push_cast; ring⟩

theorem IsCents.sub {x y : ℚ} (hx : IsCents x) (hy : IsCents y) : IsCents (x - y) := by
  obtain ⟨m, rfl⟩ := hx
  obtain ⟨n, rfl⟩ := hy
  exact ⟨m - n, by push_cast; ring⟩

theorem IsCents.natCast_mul {x : ℚ} (count : ℕ) (hx : IsCents x) : IsCents (count * x) := by
  obtain ⟨n, rfl⟩ := hx
  exact ⟨count * n, by push_cast; ring⟩

theorem IsCents.le_of_neg {x : ℚ} (hx : IsCents x) (hneg : x < 0) : x ≤ -1 / 100 := by
  obtain ⟨n, rfl⟩ := hx
  rw [div_lt_iff₀ (by norm_num), zero_mul] at hneg
  have hcount : n ≤ -1 := Int.le_sub_one_of_lt (by exact_mod_cast hneg)
  have hcast : (n : ℚ) ≤ -1 := by exact_mod_cast hcount
  exact div_le_div_of_nonneg_right hcast (by norm_num)

/-- Whole cents below a half of one cent more are at most half as many cents. -/
theorem IsCents.abs_le_half {x : ℚ} {n : ℕ} (hx : IsCents x) (h : |x| < (n + 1) / 200) :
    |x| ≤ (n / 2 : ℕ) / 100 := by
  obtain ⟨k, rfl⟩ := hx
  rw [abs_div, abs_of_pos (a := (100 : ℚ)) (by norm_num), ← Int.cast_abs] at h ⊢
  have hcents : 2 * |k| < n + 1 := by
    have hdouble : 2 * ((|k| : ℤ) : ℚ) < n + 1 := by linarith
    exact_mod_cast hdouble
  have hhalf : |k| ≤ (n / 2 : ℕ) := by omega
  gcongr
  rw [← Int.cast_natCast, Int.cast_le]
  exact hhalf

/-- A hundred times an amount in cents is a whole number, so below a bound it leaves one to it. -/
theorem IsCents.hundred_mul_abs_add_one_le {x : ℚ} {bound : ℕ} (hx : IsCents x)
    (h : 100 * |x| < bound) : 100 * |x| + 1 ≤ bound := by
  obtain ⟨n, rfl⟩ := hx
  have hcents : 100 * |(n : ℚ) / 100| = (n.natAbs : ℕ) := by
    rw [abs_div, abs_of_pos (a := (100 : ℚ)) (by norm_num), Nat.cast_natAbs, Int.cast_abs]
    ring
  rw [hcents] at h ⊢
  exact_mod_cast h

theorem isCents_of_scale_le {d : Decimal} (h : d.scale ≤ 2) : IsCents d.toRat := by
  obtain ⟨more, hmore⟩ := Nat.exists_eq_add_of_le h
  refine ⟨d.mantissa * 10 ^ more, ?_⟩
  have hhundred : (100 : ℚ) = 10 ^ d.scale * 10 ^ more := by
    rw [← pow_add, ← hmore]
    norm_num
  rw [Decimal.toRat_eq, hhundred]
  push_cast
  rw [mul_div_mul_right _ _ (by positivity)]

/-! ## Rounding -/

/-- The magnitude of an amount in cents. -/
def centsMagnitude (d : Decimal) : ℕ := roundDiv .away (d.magnitude * 100) (tenPow d.scale)

/-- The rounded amount as a number of cents. -/
def cents (d : Decimal) : ℤ := if d.negative then -centsMagnitude d else centsMagnitude d

theorem roundDiv_congr {num den num' den' : ℕ} (hden : 0 < den) (hden' : 0 < den')
    (h : num * den' = num' * den) : roundDiv .away num den = roundDiv .away num' den' :=
  le_antisymm (roundDiv_mono hden hden' h.le) (roundDiv_mono hden' hden h.ge)

theorem centsMagnitude_of_scale_le {d : Decimal} (h : d.scale ≤ places) :
    (d.magnitude : ℚ) / 10 ^ d.scale = centsMagnitude d / 100 := by
  obtain ⟨more, hmore⟩ := Nat.exists_eq_add_of_le h
  have hhundred : 100 = tenPow d.scale * tenPow more := by
    rw [← tenPow_add, ← hmore]
    rfl
  have hcents : centsMagnitude d = d.magnitude * tenPow more := by
    rw [centsMagnitude, hhundred, ← Nat.mul_assoc, Nat.mul_right_comm,
      roundDiv_mul_self _ _ (tenPow_pos _)]
  have hcast : (100 : ℚ) = 10 ^ d.scale * 10 ^ more := by exact_mod_cast hhundred
  rw [hcents, hcast, tenPow_eq]
  push_cast
  rw [mul_div_mul_right _ _ (by positivity)]

theorem centsMagnitude_of_lt_scale {d : Decimal} (h : places < d.scale) :
    roundDiv .away d.magnitude (tenPow (d.scale - places)) = centsMagnitude d := by
  refine roundDiv_congr (tenPow_pos _) (tenPow_pos _) ?_
  have hscale : tenPow d.scale = tenPow places * tenPow (d.scale - places) := by
    rw [← tenPow_add, Nat.add_sub_cancel' h.le]
  have hhundred : tenPow places = 100 := rfl
  rw [hscale, hhundred]
  ring

theorem toRat_round (d : Decimal) : (round d).toRat = cents d / 100 := by
  unfold round Decimal.roundTo cents
  split
  next h =>
    dsimp only
    rw [← centsMagnitude_of_lt_scale h]
    split
    next hzero =>
      simp only [Bool.and_eq_true, Decimal.isZero, Decimal.shorten] at hzero
      have hnone : roundDiv .away d.magnitude (tenPow (d.scale - places)) = 0 :=
        of_decide_eq_true hzero.1
      rw [Decimal.toRat_eq, hnone]
      simp [Decimal.mantissa, Decimal.shorten, hnone]
    next =>
      rw [Decimal.toRat_eq]
      cases hsign : d.negative <;>
        simp [Decimal.mantissa, Decimal.shorten, hsign, places] <;> norm_num
  next h =>
    have hcents := centsMagnitude_of_scale_le (not_lt.mp h)
    rw [Decimal.toRat_eq]
    cases hsign : d.negative
    · simpa [Decimal.mantissa, hsign] using hcents
    · simpa [Decimal.mantissa, hsign, neg_div] using hcents

theorem round_isCents (d : Decimal) : IsCents (round d).toRat := ⟨cents d, toRat_round d⟩

/-- The quantity of a decimal as its sign and its magnitude in hundredths. -/
theorem toRat_eq_hundredths (d : Decimal) :
    d.toRat = (if d.negative then -((d.magnitude * 100 : ℕ) / (tenPow d.scale : ℕ) : ℚ)
      else (d.magnitude * 100 : ℕ) / (tenPow d.scale : ℕ)) / 100 := by
  rw [Decimal.toRat_eq, tenPow_eq]
  cases hsign : d.negative <;> simp [Decimal.mantissa, hsign] <;> ring

theorem cents_mono {d e : Decimal} (h : d.toRat ≤ e.toRat) : cents d ≤ cents e := by
  have hten : ∀ n : ℕ, (0 : ℚ) < (tenPow n : ℕ) := fun n ↦ by exact_mod_cast tenPow_pos n
  rw [toRat_eq_hundredths, toRat_eq_hundredths, div_le_div_iff_of_pos_right (by norm_num)] at h
  unfold cents
  cases hd : d.negative <;> cases he : e.negative <;>
    simp only [hd, he, Bool.false_eq_true, if_true, if_false] at h ⊢
  · rw [div_le_div_iff₀ (hten _) (hten _)] at h
    exact_mod_cast roundDiv_mono (tenPow_pos _) (tenPow_pos _) (by exact_mod_cast h)
  · -- Only zero is both at least a positive and at most a negative magnitude.
    have hlow : (0 : ℚ) ≤ (d.magnitude * 100 : ℕ) / (tenPow d.scale : ℕ) := by positivity
    have hhigh : (0 : ℚ) ≤ (e.magnitude * 100 : ℕ) / (tenPow e.scale : ℕ) := by positivity
    have hzero : (d.magnitude * 100 : ℕ) / (tenPow d.scale : ℕ) = (0 : ℚ) := by linarith
    have hzero' : (e.magnitude * 100 : ℕ) / (tenPow e.scale : ℕ) = (0 : ℚ) := by linarith
    rw [div_eq_zero_iff, or_iff_left (hten _).ne', Nat.cast_eq_zero] at hzero hzero'
    have hnone : ∀ n : ℕ, roundDiv .away 0 (tenPow n) = 0 := fun n ↦
      Nat.le_zero.mp (roundDiv_le (tenPow_pos n) (Nat.zero_le _))
    simp [centsMagnitude, hzero, hzero', hnone]
  · omega
  · rw [neg_le_neg_iff, div_le_div_iff₀ (hten _) (hten _)] at h
    rw [neg_le_neg_iff]
    exact_mod_cast roundDiv_mono (tenPow_pos _) (tenPow_pos _) (by exact_mod_cast h)

theorem round_mono {d e : Decimal} (h : d.toRat ≤ e.toRat) :
    (round d).toRat ≤ (round e).toRat := by
  rw [toRat_round, toRat_round, div_le_div_iff_of_pos_right (by norm_num)]
  exact_mod_cast cents_mono h

theorem places_le_maxScale : places ≤ Decimal.maxScale := by decide

theorem isCents_iff_hasPlaces {x : ℚ} : IsCents x ↔ Decimal.HasPlaces places x := by
  have hhundred : (10 : ℚ) ^ places = 100 := by norm_num [places]
  unfold IsCents Decimal.HasPlaces
  rw [hhundred]

/-- Hundredths up to the size of a magnitude are the quantity of a decimal of two places. -/
theorem exists_toRat_eq_of_isCents {x : ℚ} (hx : IsCents x)
    (hroom : |x| * 100 < Decimal.magnitudeBound) :
    ∃ e : Decimal, e.scale = places ∧ e.toRat = x := by
  apply Decimal.exists_toRat_eq_of_hasPlaces (by decide) (isCents_iff_hasPlaces.mp hx)
  norm_num [places]
  exact hroom

theorem round_of_scale_le {d : Decimal} (h : d.scale ≤ places) : round d = d :=
  dif_neg (not_lt.mpr h)

/-- Rounding leaves a whole number of cents as it is. -/
theorem toRat_round_of_isCents {d : Decimal} (h : IsCents d.toRat) :
    (round d).toRat = d.toRat := by
  rcases Nat.lt_or_ge places d.scale with hlong | hshort
  · have habs : |d.toRat| = d.magnitude / 10 ^ d.scale := by
      rw [Decimal.toRat_eq, abs_div, abs_of_pos (a := (10 : ℚ) ^ d.scale) (by positivity),
        ← Int.cast_abs, ← Nat.cast_natAbs, Decimal.natAbs_mantissa]
    have hroom : |d.toRat| * 100 < Decimal.magnitudeBound := by
      have hmagnitude : (d.magnitude : ℚ) < Decimal.magnitudeBound := by
        exact_mod_cast d.magnitude_lt
      have hpow : (100 : ℚ) ≤ 10 ^ d.scale := by
        calc
          (100 : ℚ) = 10 ^ places := by norm_num [places]
          _ ≤ 10 ^ d.scale := pow_le_pow_right₀ (by norm_num) hlong.le
      rw [habs, div_mul_eq_mul_div, div_lt_iff₀ (by positivity)]
      calc
        (d.magnitude : ℚ) * 100 ≤ d.magnitude * 10 ^ d.scale := by gcongr
        _ < Decimal.magnitudeBound * 10 ^ d.scale := by gcongr
    obtain ⟨e, hscale, he⟩ := exists_toRat_eq_of_isCents h hroom
    have hround : (round e).toRat = e.toRat := by rw [round_of_scale_le hscale.le]
    rw [← he, ← hround]
    exact le_antisymm (round_mono he.ge) (round_mono he.le)
  · rw [round_of_scale_le hshort]

theorem toRat_round_eq_iff {d : Decimal} : (round d).toRat = d.toRat ↔ IsCents d.toRat :=
  ⟨fun h ↦ h ▸ round_isCents d, toRat_round_of_isCents⟩

theorem round_nonneg {d : Decimal} (h : 0 ≤ d.toRat) : 0 ≤ (round d).toRat := by
  have hmono : (round 0).toRat ≤ (round d).toRat := round_mono (Decimal.toRat_zero.trans_le h)
  rw [round_of_scale_le (by decide)] at hmono
  exact Decimal.toRat_zero.ge.trans hmono

/-! ## Error -/

theorem round_scale_le (d : Decimal) : (round d).scale ≤ places := by
  unfold round Decimal.roundTo
  split
  next =>
    dsimp only
    split <;> exact le_rfl
  next hshort => exact not_lt.mp hshort

theorem abs_hundredths_sub_le (d : Decimal) :
    |((d.magnitude * 100 : ℕ) / (tenPow d.scale : ℕ) : ℚ) - centsMagnitude d| ≤ 1 / 2 := by
  have hpos : (0 : ℚ) < (tenPow d.scale : ℕ) := by exact_mod_cast tenPow_pos d.scale
  have hhigh : (2 * (centsMagnitude d * tenPow d.scale) : ℚ) ≤
      2 * (d.magnitude * 100 : ℕ) + tenPow d.scale := by
    exact_mod_cast two_mul_roundDiv_le .away (d.magnitude * 100) (tenPow_pos d.scale)
  have hlow : (2 * (d.magnitude * 100 : ℕ) : ℚ) ≤
      2 * (centsMagnitude d * tenPow d.scale) + tenPow d.scale := by
    exact_mod_cast two_mul_le_roundDiv .away (d.magnitude * 100) (tenPow_pos d.scale)
  rw [abs_le]
  constructor
  · rw [neg_le_sub_iff_le_add, ← sub_le_iff_le_add, le_div_iff₀ hpos]
    linarith
  · rw [sub_le_iff_le_add, div_le_iff₀ hpos]
    linarith

/-- Rounding moves an amount by at most half a cent. -/
theorem abs_sub_round_le (d : Decimal) : |d.toRat - (round d).toRat| ≤ 1 / 200 := by
  have hbound := abs_hundredths_sub_le d
  rw [toRat_eq_hundredths, toRat_round, ← sub_div, abs_div,
    abs_of_pos (a := (100 : ℚ)) (by norm_num), div_le_iff₀ (by norm_num)]
  unfold cents
  cases d.negative
  · simpa using hbound.trans (by norm_num)
  · simp only [if_true, Int.cast_neg, Int.cast_natCast]
    rw [neg_sub_neg, abs_sub_comm]
    exact hbound.trans (by norm_num)

/-- What is less than half a cent away from whole cents is rounded to them. -/
theorem toRat_round_of_near {d : Decimal} {x : ℚ} (hx : IsCents x)
    (h : |d.toRat - x| < 1 / 200) : (round d).toRat = x := by
  obtain ⟨m, hm⟩ := round_isCents d
  obtain ⟨n, rfl⟩ := hx
  have herror := abs_sub_round_le d
  rw [abs_sub_comm] at herror
  have hdistance : |(m : ℚ) / 100 - n / 100| < 1 / 100 := by
    rw [← hm]
    calc
      |(round d).toRat - n / 100| ≤ |(round d).toRat - d.toRat| + |d.toRat - n / 100| :=
        abs_sub_le _ _ _
      _ < 1 / 200 + 1 / 200 := add_lt_add_of_le_of_lt herror h
      _ = 1 / 100 := by norm_num
  rw [← sub_div, abs_div, abs_of_pos (a := (100 : ℚ)) (by norm_num),
    div_lt_div_iff_of_pos_right (by norm_num)] at hdistance
  have hsame : m - n = 0 := by
    rw [← Int.abs_lt_one_iff]
    exact_mod_cast hdistance
  rw [hm, sub_eq_zero.mp hsame]

/-- An amount that is not offered below nothing is rounded to what it is near to. -/
theorem abs_round_max_sub_le {d : Decimal} {x error : ℚ} (h : |d.toRat - x| ≤ error) :
    |(round (d.max 0)).toRat - max 0 x| ≤ error + 1 / 200 := by
  have hround := abs_sub_round_le (d.max 0)
  rw [abs_sub_comm] at hround
  have hkept := (abs_max_sub_max_le_abs d.toRat x 0).trans h
  rw [Decimal.toRat_max, Decimal.toRat_zero] at hround
  rw [max_comm 0 x, add_comm]
  exact (abs_sub_le _ _ _).trans (add_le_add hround hkept)

theorem toRat_round_max_of_near {d : Decimal} {x : ℚ} (hx : IsCents x)
    (h : |d.toRat - x| < 1 / 200) : (round (d.max 0)).toRat = max 0 x := by
  have hcents : IsCents (max 0 x) := by
    rcases max_choice 0 x with hzero | hsame
    · rw [hzero]
      exact ⟨0, by simp⟩
    · rwa [hsame]
  apply toRat_round_of_near hcents
  rw [Decimal.toRat_max, Decimal.toRat_zero, max_comm 0 x]
  exact (abs_max_sub_max_le_abs d.toRat x 0).trans_lt h

/-- What is kept of a quantity within a thousandth of whole cents is rounded to those cents. -/
theorem toRat_round_of_stores {d : Decimal} {x y : ℚ} (h : d.Stores y) (hx : IsCents x)
    (hsmall : |x| < 10 ^ 15) (hnear : |y - x| ≤ 1 / 1000) : (round d).toRat = x := by
  apply toRat_round_of_near hx
  have hsize := abs_sub_abs_le_abs_sub y x
  have hkept : |d.toRat - y| ≤ 1 / 10 ^ 3 := by
    apply h.abs_sub_le (by decide)
    norm_num [Decimal.magnitudeBound] at hsmall ⊢
    linarith
  calc
    |d.toRat - x| ≤ |d.toRat - y| + |y - x| := abs_sub_le _ _ _
    _ ≤ 1 / 10 ^ 3 + 1 / 1000 := add_le_add hkept hnear
    _ < 1 / 200 := by norm_num

/-- Exactly what is less than half a cent is rounded to nothing. -/
theorem toRat_round_eq_zero_iff (d : Decimal) : (round d).toRat = 0 ↔ |d.toRat| < 1 / 200 := by
  have hpos : (0 : ℚ) < (tenPow d.scale : ℕ) := by exact_mod_cast tenPow_pos d.scale
  have habs : |d.toRat| = (d.magnitude * 100 : ℕ) / (tenPow d.scale : ℕ) / 100 := by
    rw [toRat_eq_hundredths, abs_div, abs_of_pos (a := (100 : ℚ)) (by norm_num)]
    cases d.negative
    · simp only [Bool.false_eq_true, if_false]
      rw [abs_of_nonneg (by positivity)]
    · simp only [if_true]
      rw [abs_neg, abs_of_nonneg (by positivity)]
  have hcents : cents d = 0 ↔ centsMagnitude d = 0 := by
    unfold cents
    cases d.negative <;> simp
  rw [toRat_round, div_eq_zero_iff, or_iff_left (by norm_num), Int.cast_eq_zero, hcents,
    centsMagnitude, roundDiv_away_eq_zero_iff _ (tenPow_pos _), habs, div_lt_iff₀ (by norm_num),
    div_lt_iff₀ hpos]
  constructor
  · intro hless
    have hcast : (2 * (d.magnitude * 100 : ℕ) : ℚ) < tenPow d.scale := by exact_mod_cast hless
    linarith
  · intro hless
    have hcast : (2 * (d.magnitude * 100 : ℕ) : ℚ) < tenPow d.scale := by linarith
    exact_mod_cast hcast

end Money

/-- Cents that have room are kept exactly. -/
theorem Decimal.Stores.toRat_eq_of_isCents {d : Decimal} {x : ℚ} (h : d.Stores x)
    (hx : Money.IsCents x) (hroom : |x| * 100 < magnitudeBound) : d.toRat = x := by
  obtain ⟨e, -, he⟩ := Money.exists_toRat_eq_of_isCents hx hroom
  exact h.toRat_eq he

end ShopPayments
