import ShopPayments.Proofs.Decimal.Quantity
import ShopPayments.Proofs.Rounding

/-!
# What is left of a number that has no room

`Decimal.fit` keeps as many places as there is room for and rounds the rest away.  How many
places that is depends on the size of the number, and rounding up can itself need one place less,
yet the result is a monotone function of the quantity (`fit_mono`).  `Decimal.Stores` is the
relation between a rational number and the decimal kept of it: it is monotone, exact wherever a
decimal has the quantity (`Stores.toRat_eq`), and total up to the largest decimal
(`exists_fit`).
-/

namespace ShopPayments
namespace Decimal

variable {magnitude scale places : ℕ}

/-! ## The places that are kept -/

/-- The number of places is as large as the given scale, the type and the room allow. -/
structure Roomiest (magnitude scale places : ℕ) : Prop where
  le_scale : places ≤ scale
  le_maxScale : places ≤ maxScale
  fits : (magnitude : ℚ) / 10 ^ scale < magnitudeBound / 10 ^ places
  full : places = scale ∨ places = maxScale ∨
    (magnitudeBound : ℚ) / 10 ^ (places + 1) ≤ magnitude / 10 ^ scale

/-- A quotient by a power of ten is small exactly if the number is. -/
theorem div_tenPow_lt_iff (h : places ≤ scale) (bound : ℕ) :
    magnitude / tenPow (scale - places) < bound ↔
      (magnitude : ℚ) / 10 ^ scale < bound / 10 ^ places := by
  obtain ⟨dropped, rfl⟩ := Nat.exists_eq_add_of_le h
  have hsplit : (bound : ℚ) * 10 ^ (places + dropped) = bound * 10 ^ dropped * 10 ^ places := by
    ring
  rw [Nat.add_sub_cancel_left, Nat.div_lt_iff_lt_mul (tenPow_pos _), tenPow_eq,
    div_lt_div_iff₀ (by positivity) (by positivity), hsplit,
    mul_lt_mul_iff_left₀ (by positivity)]
  exact_mod_cast Iff.rfl

theorem roomiestScale_le {limit : ℕ} (h : roomiestScale magnitude scale limit = some places) :
    places ≤ limit := by
  induction limit with
  | zero =>
    simp only [roomiestScale] at h
    split at h <;> simp_all
  | succ limit ih =>
    simp only [roomiestScale] at h
    split at h
    · simp_all
    · exact (ih h).trans (Nat.le_succ limit)

theorem roomiestScale_fits {limit : ℕ} (h : roomiestScale magnitude scale limit = some places) :
    magnitude / tenPow (scale - places) < magnitudeBound := by
  induction limit with
  | zero =>
    simp only [roomiestScale] at h
    split at h
    · obtain rfl : 0 = places := by simpa using h
      assumption
    · simp at h
  | succ limit ih =>
    simp only [roomiestScale] at h
    split at h
    · obtain rfl : limit + 1 = places := by simpa using h
      assumption
    · exact ih h

theorem roomiestScale_full {limit : ℕ} (h : roomiestScale magnitude scale limit = some places) :
    places = limit ∨ magnitudeBound ≤ magnitude / tenPow (scale - (places + 1)) := by
  induction limit with
  | zero => exact Or.inl (Nat.le_zero.mp (roomiestScale_le h))
  | succ limit ih =>
    simp only [roomiestScale] at h
    split at h
    · simp_all
    next hfull =>
      rcases ih h with rfl | hmore
      · exact Or.inr (Nat.le_of_not_lt hfull)
      · exact Or.inr hmore

theorem roomiest_of_roomiestScale
    (h : roomiestScale magnitude scale (Nat.min scale maxScale) = some places) :
    Roomiest magnitude scale places := by
  have hle := roomiestScale_le h
  have hscale : places ≤ scale := hle.trans (Nat.min_le_left _ _)
  have hmax : places ≤ maxScale := hle.trans (Nat.min_le_right _ _)
  refine ⟨hscale, hmax, (div_tenPow_lt_iff hscale _).mp (roomiestScale_fits h), ?_⟩
  by_cases hmore : places + 1 ≤ scale ∧ places + 1 ≤ maxScale
  · right; right
    rcases roomiestScale_full h with heq | hfull
    · have hmin : Nat.min scale maxScale < places + 1 := by omega
      exact absurd (Nat.le_min.mpr hmore) (Nat.not_le.mpr hmin)
    · rw [← not_lt, ← div_tenPow_lt_iff hmore.1]
      exact Nat.not_lt.mpr hfull
  · omega

theorem exists_roomiestScale (limit : ℕ) (h : magnitude / tenPow scale < magnitudeBound) :
    ∃ places, roomiestScale magnitude scale limit = some places := by
  induction limit with
  | zero => exact ⟨0, if_pos h⟩
  | succ limit ih =>
    simp only [roomiestScale]
    split
    · exact ⟨_, rfl⟩
    · exact ih

/-! ## The rounded magnitude -/

/-- The magnitude rounded to the given places. -/
def magnitudeAt (magnitude scale places : ℕ) : ℕ :=
  roundDiv .toEven magnitude (tenPow (scale - places))

theorem le_magnitudeAt {k : ℕ} (hplaces : places ≤ scale)
    (h : (k : ℚ) / 10 ^ places ≤ magnitude / 10 ^ scale) :
    k ≤ magnitudeAt magnitude scale places := by
  obtain ⟨dropped, rfl⟩ := Nat.exists_eq_add_of_le hplaces
  rw [div_le_div_iff₀ (by positivity) (by positivity), pow_add, ← mul_assoc, mul_right_comm,
    mul_le_mul_iff_left₀ (by positivity)] at h
  refine le_roundDiv (tenPow_pos _) ?_
  rw [Nat.add_sub_cancel_left, tenPow_eq]
  exact_mod_cast h

theorem magnitudeAt_le {k : ℕ} (hplaces : places ≤ scale)
    (h : (magnitude : ℚ) / 10 ^ scale ≤ k / 10 ^ places) :
    magnitudeAt magnitude scale places ≤ k := by
  obtain ⟨dropped, rfl⟩ := Nat.exists_eq_add_of_le hplaces
  rw [div_le_div_iff₀ (by positivity) (by positivity), pow_add, ← mul_assoc, mul_right_comm,
    mul_le_mul_iff_left₀ (by positivity)] at h
  refine roundDiv_le (tenPow_pos _) ?_
  rw [Nat.add_sub_cancel_left, tenPow_eq]
  exact_mod_cast h

theorem magnitudeAt_mono {magnitude' scale' : ℕ} (hplaces : places ≤ scale)
    (hplaces' : places ≤ scale')
    (h : (magnitude : ℚ) / 10 ^ scale ≤ magnitude' / 10 ^ scale') :
    magnitudeAt magnitude scale places ≤ magnitudeAt magnitude' scale' places := by
  obtain ⟨dropped, rfl⟩ := Nat.exists_eq_add_of_le hplaces
  obtain ⟨dropped', rfl⟩ := Nat.exists_eq_add_of_le hplaces'
  refine roundDiv_mono (tenPow_pos _) (tenPow_pos _) ?_
  rw [Nat.add_sub_cancel_left, Nat.add_sub_cancel_left, tenPow_eq, tenPow_eq]
  rw [div_le_div_iff₀ (by positivity) (by positivity), pow_add, pow_add, mul_left_comm,
    mul_left_comm (magnitude' : ℚ), mul_le_mul_iff_right₀ (by positivity)] at h
  exact_mod_cast h

theorem magnitudeAt_self (magnitude scale : ℕ) : magnitudeAt magnitude scale scale = magnitude := by
  rw [magnitudeAt, Nat.sub_self, tenPow_zero, roundDiv_one]

/-- What is written for a magnitude that rounding took to the bound, with one place less. -/
def carried : ℕ := roundDiv .toEven magnitudeBound 10

theorem carried_eq : carried = 7922816251426433759354395034 := by decide

theorem magnitudeBound_eq : magnitudeBound = 79228162514264337593543950336 := rfl

/-- The quantity that is kept of a magnitude over a power of ten. -/
structure Fitted (magnitude scale places : ℕ) (value : ℚ) : Prop where
  roomiest : Roomiest magnitude scale places
  rounded_le : magnitudeAt magnitude scale places ≤ magnitudeBound
  eq_of_lt : magnitudeAt magnitude scale places < magnitudeBound →
    value = magnitudeAt magnitude scale places / 10 ^ places
  eq_of_full : magnitudeAt magnitude scale places = magnitudeBound →
    value = 10 * carried / 10 ^ places

theorem fitted_of_fitMagnitude {kept keptScale : ℕ}
    (h : fitMagnitude magnitude scale = some (kept, keptScale)) :
    ∃ places, Fitted magnitude scale places (kept / 10 ^ keptScale) := by
  unfold fitMagnitude at h
  split at h
  · simp at h
  next places hplaces =>
    have hroomiest := roomiest_of_roomiestScale hplaces
    have hrounded : magnitudeAt magnitude scale places ≤ magnitudeBound :=
      (roundDiv_le_succ _ _ _).trans (roomiestScale_fits hplaces)
    refine ⟨places, hroomiest, hrounded, ?_, ?_⟩
    · intro hlt
      rw [magnitudeAt] at hlt
      simp only [if_pos hlt, Option.some.injEq, Prod.mk.injEq] at h
      rw [← h.1, ← h.2, magnitudeAt]
    · intro hfull
      rw [magnitudeAt] at hfull
      simp only [hfull, lt_irrefl, if_false] at h
      split at h
      · simp at h
      next fewer =>
        simp only [Option.some.injEq, Prod.mk.injEq] at h
        rw [← h.1, ← h.2, pow_succ', mul_div_mul_left _ _ (by norm_num)]
        rfl

namespace Fitted

variable {magnitude' scale' places' : ℕ} {value value' : ℚ}

theorem le_value (h : Fitted magnitude scale places value) :
    (magnitudeAt magnitude scale places : ℚ) / 10 ^ places ≤ value := by
  rcases h.rounded_le.lt_or_eq with hlt | hfull
  · exact (h.eq_of_lt hlt).ge
  · rw [h.eq_of_full hfull, hfull, carried_eq, magnitudeBound_eq]
    gcongr
    norm_num

theorem value_le (h : Fitted magnitude scale places value) :
    value ≤ 10 * carried / 10 ^ places := by
  rcases h.rounded_le.lt_or_eq with hlt | hfull
  · rw [h.eq_of_lt hlt]
    have hbound : (magnitudeAt magnitude scale places : ℚ) ≤ magnitudeBound := by
      exact_mod_cast h.rounded_le
    rw [carried_eq]
    rw [magnitudeBound_eq] at hbound
    gcongr
    exact hbound.trans (by norm_num)
  · exact (h.eq_of_full hfull).le

theorem nonneg (h : Fitted magnitude scale places value) : 0 ≤ value :=
  le_trans (by positivity) h.le_value

/-- A number that already has the given places is kept as it is. -/
theorem value_eq_of_places_eq (h : Fitted magnitude scale places value) (heq : places = scale) :
    value = magnitude / 10 ^ scale := by
  subst heq
  have hfits := h.roomiest.fits
  rw [div_lt_div_iff_of_pos_right (by positivity)] at hfits
  rw [h.eq_of_lt, magnitudeAt_self]
  rw [magnitudeAt_self]
  exact_mod_cast hfits

/-- Of a number that fills all digits at one place more, at least `carried` is kept. -/
theorem carried_le_value (h : Fitted magnitude scale places value)
    (hfull : (magnitudeBound : ℚ) / 10 ^ (places + 1) ≤ magnitude / 10 ^ scale) :
    (carried : ℚ) / 10 ^ places ≤ value := by
  refine le_trans ?_ h.le_value
  have hrounded : carried ≤ magnitudeAt magnitude scale places := by
    have hmono :
        magnitudeAt magnitudeBound (places + 1) places ≤ magnitudeAt magnitude scale places :=
      magnitudeAt_mono (Nat.le_succ places) h.roomiest.le_scale hfull
    rwa [magnitudeAt, Nat.add_sub_cancel_left] at hmono
  gcongr

/-- A whole number of units above the quantity is also above what is kept of it. -/
theorem value_le_of_le (h : Fitted magnitude scale places value) {k : ℕ}
    (hk : (magnitude : ℚ) / 10 ^ scale ≤ k / 10 ^ places) (hten : 10 ∣ k) :
    value ≤ k / 10 ^ places := by
  have hrounded := magnitudeAt_le h.roomiest.le_scale hk
  rcases h.rounded_le.lt_or_eq with hlt | hfull
  · rw [h.eq_of_lt hlt]
    gcongr
  · rw [h.eq_of_full hfull]
    rw [hfull, magnitudeBound_eq] at hrounded
    have hcarried : 10 * carried ≤ k := by
      rw [carried_eq]
      omega
    gcongr
    exact_mod_cast hcarried

theorem mono (h : Fitted magnitude scale places value)
    (h' : Fitted magnitude' scale' places' value')
    (hle : (magnitude : ℚ) / 10 ^ scale ≤ magnitude' / 10 ^ scale') : value ≤ value' := by
  rcases lt_trichotomy places places' with hlt | rfl | hlt
  · -- The smaller number had fewer places although it had room for more: it was exact.
    rcases h.roomiest.full with heq | hmax | hfull
    · rw [h.value_eq_of_places_eq heq, ← heq]
      obtain ⟨more, rfl⟩ := Nat.exists_eq_add_of_le hlt.le
      have hunits : (magnitude : ℚ) / 10 ^ places =
          (magnitude * 10 ^ more : ℕ) / 10 ^ (places + more) := by
        push_cast
        rw [pow_add, mul_div_mul_right _ _ (by positivity)]
      have hrounded := le_magnitudeAt (k := magnitude * 10 ^ more) h'.roomiest.le_scale
        (by rw [← hunits, heq]; exact hle)
      rw [hunits]
      exact le_trans (by gcongr) h'.le_value
    · have := h'.roomiest.le_maxScale
      omega
    · have hpow : (10 : ℚ) ^ (places + 1) ≤ 10 ^ places' :=
        pow_le_pow_right₀ (by norm_num) hlt
      have hroom : (magnitudeBound : ℚ) / 10 ^ places' ≤ magnitudeBound / 10 ^ (places + 1) := by
        gcongr
      exact absurd (h'.roomiest.fits) (not_lt.mpr (hroom.trans (hfull.trans hle)))
  · have hrounded := magnitudeAt_mono h.roomiest.le_scale h'.roomiest.le_scale hle
    rcases h'.rounded_le.lt_or_eq with hroom | hfull
    · rw [h.eq_of_lt (hrounded.trans_lt hroom), h'.eq_of_lt hroom]
      gcongr
    · rw [h'.eq_of_full hfull]
      exact h.value_le
  · -- The larger number had fewer places: it was exact, or it fills all digits.
    rcases h'.roomiest.full with heq | hmax | hfull
    · rw [h'.value_eq_of_places_eq heq, ← heq]
      obtain ⟨more, rfl⟩ := Nat.exists_eq_add_of_lt hlt
      have hunits : (magnitude' : ℚ) / 10 ^ places' =
          (magnitude' * 10 ^ (more + 1) : ℕ) / 10 ^ (places' + more + 1) := by
        push_cast
        rw [add_assoc, pow_add _ places', mul_div_mul_right _ _ (by positivity)]
      rw [hunits]
      refine h.value_le_of_le ?_ (Dvd.dvd.mul_left (dvd_pow_self 10 (Nat.succ_ne_zero more)) _)
      rw [← hunits, heq]
      exact hle
    · have := h.roomiest.le_maxScale
      omega
    · refine le_trans h.value_le (le_trans ?_ (h'.carried_le_value hfull))
      have hpow : (10 : ℚ) ^ (places' + 1) ≤ 10 ^ places := pow_le_pow_right₀ (by norm_num) hlt
      calc
        (10 * carried : ℚ) / 10 ^ places ≤ 10 * carried / 10 ^ (places' + 1) := by gcongr
        _ = carried / 10 ^ places' := by
          rw [pow_succ', mul_div_mul_left _ _ (by norm_num)]

end Fitted

/-! ## Signed numbers -/

theorem fitted_of_fit {m : ℤ} {d : Decimal} (h : fit m scale = some d) :
    ∃ places value, Fitted m.natAbs scale places value ∧
      d.toRat = if m < 0 then -value else value := by
  simp only [fit, Option.bind_eq_bind, Option.bind_eq_some_iff] at h
  obtain ⟨⟨kept, keptScale⟩, hkept, hsigned⟩ := h
  obtain ⟨places, hfitted⟩ := fitted_of_fitMagnitude hkept
  refine ⟨places, _, hfitted, ?_⟩
  simp only [signed?] at hsigned
  split at hsigned
  · rw [← Option.some.inj hsigned, toRat_signed]
    by_cases hneg : m < 0 <;> simp [hneg, neg_div]
  · simp at hsigned

/-- Fitting keeps the order of quantities, whatever their places are. -/
theorem fit_mono {m m' : ℤ} {scale' : ℕ} {d d' : Decimal} (h : fit m scale = some d)
    (h' : fit m' scale' = some d') (hle : (m : ℚ) / 10 ^ scale ≤ m' / 10 ^ scale') :
    d.toRat ≤ d'.toRat := by
  obtain ⟨places, value, hfitted, hd⟩ := fitted_of_fit h
  obtain ⟨places', value', hfitted', hd'⟩ := fitted_of_fit h'
  rw [hd, hd']
  by_cases hneg : m < 0 <;> by_cases hneg' : m' < 0
  · rw [if_pos hneg, if_pos hneg', neg_le_neg_iff]
    refine hfitted'.mono hfitted ?_
    have habs : (m.natAbs : ℚ) = -m := by
      rw [Nat.cast_natAbs, abs_of_neg hneg, Int.cast_neg]
    have habs' : (m'.natAbs : ℚ) = -m' := by
      rw [Nat.cast_natAbs, abs_of_neg hneg', Int.cast_neg]
    rw [habs, habs', neg_div, neg_div]
    exact neg_le_neg hle
  · rw [if_pos hneg, if_neg hneg']
    exact (neg_nonpos.mpr hfitted.nonneg).trans hfitted'.nonneg
  · have hlow : (0 : ℚ) ≤ m / 10 ^ scale := by
      have : (0 : ℚ) ≤ m := by exact_mod_cast not_lt.mp hneg
      positivity
    have hhigh : (m' : ℚ) / 10 ^ scale' < 0 :=
      div_neg_of_neg_of_pos (by exact_mod_cast hneg') (by positivity)
    exact absurd (hlow.trans hle) (not_le.mpr hhigh)
  · rw [if_neg hneg, if_neg hneg']
    refine hfitted.mono hfitted' ?_
    rwa [Nat.cast_natAbs, Nat.cast_natAbs, abs_of_nonneg (not_lt.mp hneg),
      abs_of_nonneg (not_lt.mp hneg')]

theorem exists_fitMagnitude (h : (magnitude : ℚ) / 10 ^ scale ≤ magnitudeBound - 1) :
    ∃ kept keptScale, fitMagnitude magnitude scale = some (kept, keptScale) ∧
      kept < magnitudeBound ∧ keptScale ≤ maxScale := by
  have hroom : magnitude / tenPow scale < magnitudeBound := by
    rw [← Nat.sub_zero scale, div_tenPow_lt_iff (Nat.zero_le scale), pow_zero, div_one]
    linarith
  obtain ⟨places, hplaces⟩ := exists_roomiestScale (Nat.min scale maxScale) hroom
  have hroomiest := roomiest_of_roomiestScale hplaces
  simp only [fitMagnitude, hplaces]
  split
  next hlt => exact ⟨_, _, rfl, hlt, hroomiest.le_maxScale⟩
  next hfull =>
    cases places with
    | zero =>
      have hcast : ((magnitudeBound - 1 : ℕ) : ℚ) = magnitudeBound - 1 := by
        rw [magnitudeBound_eq]
        norm_num
      have hrounded : magnitudeAt magnitude scale 0 ≤ magnitudeBound - 1 :=
        magnitudeAt_le (Nat.zero_le _) (by rw [hcast, pow_zero, div_one]; exact h)
      have hpos : 0 < magnitudeBound := by decide
      rw [magnitudeAt] at hrounded
      omega
    | succ fewer =>
      have hrounded : magnitudeAt magnitude scale (fewer + 1) ≤ magnitudeBound :=
        (roundDiv_le_succ _ _ _).trans (roomiestScale_fits hplaces)
      have heq : roundDiv .toEven magnitude (tenPow (scale - (fewer + 1))) = magnitudeBound :=
        le_antisymm hrounded (not_lt.mp hfull)
      refine ⟨_, _, rfl, ?_, (Nat.le_succ fewer).trans hroomiest.le_maxScale⟩
      rw [heq]
      decide

/-- Up to the largest decimal there is always something to keep. -/
theorem exists_fit {m : ℤ} (h : |(m : ℚ) / 10 ^ scale| ≤ magnitudeBound - 1) :
    ∃ d, fit m scale = some d := by
  have habs : (m.natAbs : ℚ) / 10 ^ scale ≤ magnitudeBound - 1 := by
    rwa [abs_div, abs_of_pos (a := (10 : ℚ) ^ scale) (by positivity), ← Int.cast_abs,
      ← Nat.cast_natAbs] at h
  obtain ⟨kept, keptScale, hkept, hlt, hscale⟩ := exists_fitMagnitude habs
  refine ⟨signed (decide (m < 0)) kept keptScale hlt hscale, ?_⟩
  simp only [fit, hkept, Option.bind_eq_bind, Option.bind_some]
  exact dif_pos ⟨hlt, hscale⟩

/-! ## The decimal that is kept of a quantity -/

/-- The quantity of the decimal is what fitting keeps of the rational number. -/
def Stores (d : Decimal) (x : ℚ) : Prop :=
  ∃ (m : ℤ) (s : ℕ) (e : Decimal), (m : ℚ) / 10 ^ s = x ∧ fit m s = some e ∧ e.toRat = d.toRat

theorem stores_of_fit {m : ℤ} {d : Decimal} (h : fit m scale = some d) :
    d.Stores (m / 10 ^ scale) := ⟨m, scale, d, rfl, h, rfl⟩

theorem toRat_abs_le (d : Decimal) : |d.toRat| ≤ magnitudeBound - 1 := by
  have hmagnitude : (d.magnitude : ℚ) ≤ magnitudeBound - 1 := by
    have hle : d.magnitude + 1 ≤ magnitudeBound := d.magnitude_lt
    have hcast : ((d.magnitude + 1 : ℕ) : ℚ) ≤ magnitudeBound := by exact_mod_cast hle
    push_cast at hcast
    linarith
  rw [toRat_eq, abs_div, abs_of_pos (a := (10 : ℚ) ^ d.scale) (by positivity), ← Int.cast_abs,
    ← Nat.cast_natAbs, natAbs_mantissa]
  exact (div_le_self (by positivity) (one_le_pow₀ (by norm_num))).trans hmagnitude

theorem stores_self (d : Decimal) : d.Stores d.toRat := by
  have habs := toRat_abs_le d
  rw [toRat_eq] at habs
  obtain ⟨e, he⟩ := exists_fit habs
  refine ⟨d.mantissa, d.scale, e, (toRat_eq d).symm, he, ?_⟩
  obtain ⟨places, value, hfitted, hvalue⟩ := fitted_of_fit he
  rw [natAbs_mantissa] at hfitted
  have hplaces : places = d.scale := by
    rcases hfitted.roomiest.full with heq | hmax | hfull
    · exact heq
    · exact le_antisymm hfitted.roomiest.le_scale (hmax ▸ d.scale_le)
    · by_contra hne
      have hlt : places + 1 ≤ d.scale := lt_of_le_of_ne hfitted.roomiest.le_scale hne
      have hpow : (10 : ℚ) ^ (places + 1) ≤ 10 ^ d.scale := pow_le_pow_right₀ (by norm_num) hlt
      have hroom : (d.magnitude : ℚ) / 10 ^ d.scale < magnitudeBound / 10 ^ d.scale := by
        have hmagnitude : (d.magnitude : ℚ) < magnitudeBound := by exact_mod_cast d.magnitude_lt
        gcongr
      have hless : (magnitudeBound : ℚ) / 10 ^ d.scale ≤ magnitudeBound / 10 ^ (places + 1) := by
        gcongr
      exact absurd (hroom.trans_le hless) (not_lt.mpr hfull)
  rw [hvalue, hfitted.value_eq_of_places_eq hplaces, toRat_eq, ← natAbs_mantissa]
  split
  next hneg => rw [Nat.cast_natAbs, abs_of_neg hneg, Int.cast_neg, neg_div, neg_neg]
  next hneg => rw [Nat.cast_natAbs, abs_of_nonneg (not_lt.mp hneg)]

namespace Stores

variable {d e : Decimal} {x y : ℚ}

theorem mono (h : d.Stores x) (h' : e.Stores y) (hle : x ≤ y) : d.toRat ≤ e.toRat := by
  obtain ⟨m, s, f, rfl, hfit, hf⟩ := h
  obtain ⟨m', s', f', rfl, hfit', hf'⟩ := h'
  rw [← hf, ← hf']
  exact fit_mono hfit hfit' hle

theorem le_of_le (h : d.Stores x) (hle : e.toRat ≤ x) : e.toRat ≤ d.toRat :=
  (stores_self e).mono h hle

theorem ge_of_ge (h : d.Stores x) (hle : x ≤ e.toRat) : d.toRat ≤ e.toRat :=
  h.mono (stores_self e) hle

/-- A quantity that some decimal has is kept as it is. -/
theorem toRat_eq (h : d.Stores x) (hx : e.toRat = x) : d.toRat = x :=
  le_antisymm (hx ▸ h.ge_of_ge hx.ge) (hx ▸ h.le_of_le hx.le)

theorem nonneg (h : d.Stores x) (hx : 0 ≤ x) : 0 ≤ d.toRat := by
  rw [← toRat_zero]
  exact h.le_of_le (by rwa [toRat_zero])

theorem congr (h : d.Stores x) (hd : e.toRat = d.toRat) : e.Stores x := by
  obtain ⟨m, s, f, hx, hfit, hf⟩ := h
  exact ⟨m, s, f, hx, hfit, hf.trans hd.symm⟩

end Stores

end Decimal
end ShopPayments
