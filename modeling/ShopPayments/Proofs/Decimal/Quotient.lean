import ShopPayments.Proofs.Decimal.Arithmetic

/-!
# Quotients of decimals

A quotient by a count is lengthened digit by digit as long as there is room, and what then remains
rounds it.  Each step keeps the exact quotient, and rounding up never passes a decimal: one that
lies above the exact quotient either has no more places than the result or would have to be
smaller than the digits found so far.  So a quotient is at most every decimal that is at least the
exact one (`divCount_le`).  The same steps bound how far off it is, whatever its length: by units of
the last place there can be and of the last digit there is room for (`abs_divCount_sub_le`).
-/

namespace ShopPayments
namespace Decimal

variable {a p : Decimal} {count mantissa remainder places : ℕ}

/-- The next number of the given places is at most any decimal that is at least a quantity in
between, if there is no room for more places of that quantity. -/
theorem succ_le_toRat {m : ℕ} {x : ℚ} (hlt : (m : ℚ) / 10 ^ places < x) (hle : x ≤ p.toRat)
    (hfull : maxScale ≤ places ∨ (magnitudeBound : ℚ) / 10 ^ (places + 1) ≤ x) :
    ((m + 1 : ℕ) : ℚ) / 10 ^ places ≤ p.toRat := by
  have hpositive : 0 < p.toRat := lt_of_le_of_lt (by positivity) (hlt.trans_le hle)
  have hp := toRat_eq_of_pos hpositive
  rcases Nat.lt_or_ge places p.scale with hlong | hshort
  · exfalso
    have hbound : (magnitudeBound : ℚ) / 10 ^ (places + 1) ≤ x := by
      rcases hfull with hmax | hbound
      · have hscale := p.scale_le
        omega
      · exact hbound
    have hmagnitude : (p.magnitude : ℚ) < magnitudeBound := by exact_mod_cast p.magnitude_lt
    have hless : p.toRat < magnitudeBound / 10 ^ (places + 1) := by
      calc
        p.toRat = p.magnitude / 10 ^ p.scale := hp
        _ < magnitudeBound / 10 ^ p.scale := by gcongr
        _ ≤ magnitudeBound / 10 ^ (places + 1) := by
          gcongr
          · norm_num
          · exact hlong
    linarith
  · obtain ⟨more, rfl⟩ := Nat.exists_eq_add_of_le hshort
    have hsame : p.toRat = (p.magnitude * 10 ^ more : ℕ) / 10 ^ (p.scale + more) := by
      rw [hp, pow_add]
      push_cast
      rw [mul_div_mul_right _ _ (by positivity)]
    have hbetween := hlt.trans_le hle
    rw [hsame, div_lt_div_iff_of_pos_right (by positivity), Nat.cast_lt] at hbetween
    rw [hsame, div_le_div_iff_of_pos_right (by positivity), Nat.cast_le]
    exact hbetween

/-! ## Lengthening -/

/-- The exact quotient that digits and a remainder stand for. -/
def quotientOf (count mantissa remainder places : ℕ) : ℚ :=
  (mantissa + remainder / count) / 10 ^ places

theorem le_quotientOf (count mantissa remainder places : ℕ) :
    (mantissa : ℚ) / 10 ^ places ≤ quotientOf count mantissa remainder places := by
  unfold quotientOf
  gcongr
  exact le_add_of_nonneg_right (by positivity)

theorem lt_quotientOf (hcount : 0 < count) (hremainder : remainder ≠ 0) :
    (mantissa : ℚ) / 10 ^ places < quotientOf count mantissa remainder places := by
  have hpositive : 0 < remainder := Nat.pos_of_ne_zero hremainder
  unfold quotientOf
  gcongr
  exact lt_add_of_pos_right _ (by positivity)

/-- More digits of a quotient stand for the same quotient. -/
theorem quotientOf_longer (hcount : 0 < count) (mantissa remainder places more : ℕ) :
    quotientOf count (mantissa * tenPow more + remainder * tenPow more / count)
        (remainder * tenPow more % count) (places + more) =
      quotientOf count mantissa remainder places := by
  have hdivision : (remainder * tenPow more : ℚ) =
      count * (remainder * tenPow more / count : ℕ) + (remainder * tenPow more % count : ℕ) := by
    exact_mod_cast (Nat.div_add_mod (remainder * tenPow more) count).symm
  have hne : (count : ℚ) ≠ 0 := by exact_mod_cast hcount.ne'
  have hten : (tenPow more : ℚ) = 10 ^ more := by
    rw [tenPow_eq]
    push_cast
    rfl
  unfold quotientOf
  rw [div_eq_div_iff (by positivity) (by positivity), pow_add, ← hten]
  push_cast
  field_simp
  linarith

theorem headroom_eq_zero {limit : ℕ} (h : headroom mantissa limit = 0) :
    limit = 0 ∨ magnitudeBound ≤ mantissa * 10 := by
  induction limit with
  | zero => exact Or.inl rfl
  | succ limit ih =>
    unfold headroom at h
    split at h
    · cases h
    next hfull =>
      rcases ih h with rfl | hbound
      · exact Or.inr (not_lt.mp hfull)
      · exact Or.inr hbound

theorem raised_le (hmantissa : mantissa < magnitudeBound)
    (h : ((mantissa + 1 : ℕ) : ℚ) / 10 ^ places ≤ p.toRat) :
    ((raised mantissa places).1 : ℚ) / 10 ^ (raised mantissa places).2 ≤ p.toRat := by
  unfold raised
  split
  · exact h
  next hfull =>
    have hbound : mantissa + 1 = magnitudeBound := by omega
    rw [hbound] at h ⊢
    cases places with
    | zero =>
      have hp := (abs_le.mp (toRat_abs_le p)).2
      rw [pow_zero, div_one] at h
      linarith
    | succ fewer =>
      -- The bound is no multiple of ten, so a decimal above it has a place less.
      have hlt : ((magnitudeBound / 10 : ℕ) : ℚ) / 10 ^ fewer <
          magnitudeBound / 10 ^ (fewer + 1) := by
        rw [div_lt_div_iff₀ (by positivity) (by positivity), pow_succ, ← mul_assoc,
          mul_right_comm, mul_lt_mul_iff_left₀ (by positivity)]
        exact_mod_cast (by decide : magnitudeBound / 10 * 10 < magnitudeBound)
      have hnext := succ_le_toRat hlt h (Or.inr le_rfl)
      have hrounded : roundDiv .toEven magnitudeBound 10 = magnitudeBound / 10 + 1 := by decide
      simpa [hrounded] using hnext

theorem shortened_le (hlong : magnitudeBound ≤ mantissa)
    (h : quotientOf count mantissa remainder (places + 1) ≤ p.toRat) :
    ((shortened mantissa remainder : ℕ) : ℚ) / 10 ^ places ≤ p.toRat := by
  have hdown : ((mantissa / 10 : ℕ) : ℚ) / 10 ^ places ≤ mantissa / 10 ^ (places + 1) := by
    rw [div_le_div_iff₀ (by positivity) (by positivity), pow_succ, ← mul_assoc, mul_right_comm]
    gcongr
    exact_mod_cast Nat.div_mul_le_self mantissa 10
  have hexact := le_quotientOf count mantissa remainder (places + 1)
  unfold shortened
  dsimp only
  split
  next hraises =>
    have hlast : mantissa % 10 ≠ 0 := by
      intro hzero
      simp [hzero] at hraises
    have hlt : ((mantissa / 10 : ℕ) : ℚ) / 10 ^ places < mantissa / 10 ^ (places + 1) := by
      rw [div_lt_div_iff₀ (by positivity) (by positivity), pow_succ, ← mul_assoc, mul_right_comm,
        mul_lt_mul_iff_left₀ (by positivity)]
      have hdigits : mantissa / 10 * 10 < mantissa := by omega
      exact_mod_cast hdigits
    apply succ_le_toRat (hlt.trans_le hexact) h
    refine Or.inr (le_trans ?_ hexact)
    gcongr
  next => exact hdown.trans (hexact.trans h)

theorem lengthen_le (hcount : 0 < count) (steps : ℕ) (hmantissa : mantissa < magnitudeBound)
    (h : quotientOf count mantissa remainder places ≤ p.toRat) :
    ((lengthen count steps mantissa remainder places).1 : ℚ) /
      10 ^ (lengthen count steps mantissa remainder places).2 ≤ p.toRat := by
  induction steps generalizing mantissa remainder places with
  | zero => exact (le_quotientOf _ _ _ _).trans h
  | succ steps ih =>
    unfold lengthen
    split
    next => exact (le_quotientOf _ _ _ _).trans h
    next hremainder =>
      dsimp only
      split
      next hnone =>
        split
        next =>
          apply raised_le hmantissa
          apply succ_le_toRat (lt_quotientOf hcount hremainder) h
          rcases headroom_eq_zero hnone with hplaces | hfull
          · have hstep : 0 < divisionStep := by decide
            change Min.min divisionStep (maxScale - places) = 0 at hplaces
            left
            omega
          · right
            refine le_trans ?_ (le_quotientOf count mantissa remainder places)
            rw [div_le_div_iff₀ (by positivity) (by positivity), pow_succ, ← mul_assoc,
              mul_right_comm]
            gcongr
            exact_mod_cast hfull
        next => exact (le_quotientOf _ _ _ _).trans h
      next hmore =>
        rw [← quotientOf_longer hcount] at h
        split
        next hroom => exact ih hroom h
        next hlong =>
          obtain ⟨fewer, hfewer⟩ := Nat.exists_eq_succ_of_ne_zero hmore
          rw [hfewer] at h hlong ⊢
          exact shortened_le (not_lt.mp hlong) h

/-! ## The quotient -/

theorem unscaleBy_div (zeros unit : ℕ) (d : ℕ × ℕ) :
    ((unscaleBy zeros unit d).1 : ℚ) / 10 ^ (unscaleBy zeros unit d).2 = d.1 / 10 ^ d.2 := by
  unfold unscaleBy
  split
  next h =>
    simp only [Bool.and_eq_true, decide_eq_true_eq] at h
    obtain ⟨⟨-, hzeros⟩, hmod⟩ := h
    obtain ⟨digits, hdigits⟩ := Nat.dvd_of_mod_eq_zero hmod
    obtain ⟨rest, hrest⟩ := Nat.exists_eq_add_of_le hzeros
    rw [hdigits, hrest, Nat.mul_div_cancel_left _ (tenPow_pos _), Nat.add_sub_cancel_left,
      tenPow_eq, pow_add]
    push_cast
    rw [mul_div_mul_left _ _ (by positivity)]
  next => rfl

theorem unscale_div (d : ℕ × ℕ) :
    ((unscale d).1 : ℚ) / 10 ^ (unscale d).2 = d.1 / 10 ^ d.2 := by
  unfold unscale
  simp only [unscaleBy_div]

theorem divCount_nonneg (hcount : 0 < count) (h : 0 ≤ a.toRat) :
    0 ≤ (a.divCount count hcount).toRat := by
  unfold divCount
  split
  · exact toRat_zero.ge
  next hzero =>
    have hsign := negative_eq_false_of_pos (toRat_pos_of_not_isZero h hzero)
    split <;> rw [toRat_signed, hsign] <;> simp only [Bool.false_eq_true, if_false] <;> positivity

/-- The digits and the remainder of a whole division stand for the exact quotient. -/
theorem quotientOf_div_mod (hcount : 0 < count) (magnitude places : ℕ) :
    quotientOf count (magnitude / count) (magnitude % count) places =
      magnitude / 10 ^ places / count := by
  have hdivision : (magnitude : ℚ) = count * (magnitude / count : ℕ) + (magnitude % count : ℕ) := by
    exact_mod_cast (Nat.div_add_mod magnitude count).symm
  have hne : (count : ℚ) ≠ 0 := by exact_mod_cast hcount.ne'
  rw [hdivision, quotientOf]
  field_simp

/-- A quotient is at most every decimal that is at least the exact quotient. -/
theorem divCount_le (hcount : 0 < count) (ha : 0 ≤ a.toRat) (h : a.toRat ≤ count * p.toRat) :
    (a.divCount count hcount).toRat ≤ p.toRat := by
  have hcast : (0 : ℚ) < count := by exact_mod_cast hcount
  unfold divCount
  split
  next hzero =>
    rw [isZero_iff_toRat_eq_zero] at hzero
    rw [hzero] at h
    rw [toRat_zero]
    exact nonneg_of_mul_nonneg_right h hcast
  next hzero =>
    have hpositive := toRat_pos_of_not_isZero ha hzero
    have hsign := negative_eq_false_of_pos hpositive
    have hexact :
        quotientOf count (a.magnitude / count) (a.magnitude % count) a.scale ≤ p.toRat := by
      rw [quotientOf_div_mod hcount, ← toRat_eq_of_pos hpositive, div_le_iff₀ hcast, mul_comm]
      exact h
    split
    next =>
      rw [toRat_signed, hsign]
      exact (le_quotientOf _ _ _ _).trans hexact
    next =>
      rw [toRat_signed, hsign]
      simp only [Bool.false_eq_true, if_false, inexactQuotient, unscale_div]
      exact lengthen_le hcount _ ((Nat.div_le_self _ _).trans_lt a.magnitude_lt) hexact

/-! ## Error -/

/-- How far a quotient may be from the exact one: a unit of the last place there can be, and ten
units of the last digit that a magnitude has room for. -/
def tolerance (exact : ℚ) : ℚ := 1 / 10 ^ maxScale + 10 * exact / magnitudeBound

theorem tolerance_nonneg {exact : ℚ} (h : 0 ≤ exact) : 0 ≤ tolerance exact := by
  unfold tolerance
  positivity

theorem quotientOf_nonneg (count mantissa remainder places : ℕ) :
    0 ≤ quotientOf count mantissa remainder places := by
  unfold quotientOf
  positivity

theorem quotientOf_zero (count mantissa places : ℕ) :
    quotientOf count mantissa 0 places = mantissa / 10 ^ places := by
  rw [quotientOf, Nat.cast_zero, zero_div, add_zero]

/-- Digits that are few units away from the exact quotient are as near to it as those units
are. -/
theorem abs_sub_quotientOf_le {m : ℕ} {units : ℚ}
    (h : |(m : ℚ) - (mantissa + remainder / count)| ≤ units) :
    |(m : ℚ) / 10 ^ places - quotientOf count mantissa remainder places| ≤ units / 10 ^ places := by
  rw [quotientOf, ← sub_div, abs_div, abs_of_pos (a := (10 : ℚ) ^ places) (by positivity)]
  gcongr

/-- Units of the last place are within the tolerance if the digits before them take the room of
a magnitude as often. -/
theorem units_le_tolerance {units : ℚ} (h : units * magnitudeBound ≤ 10 * mantissa) :
    units / 10 ^ places ≤ tolerance (quotientOf count mantissa remainder places) := by
  have hexact := le_quotientOf count mantissa remainder places
  have hbound : (0 : ℚ) < magnitudeBound := by norm_num [magnitudeBound]
  calc
    units / 10 ^ places = units * magnitudeBound / 10 ^ places / magnitudeBound := by
      rw [div_right_comm, mul_div_assoc, div_self hbound.ne', mul_one]
    _ ≤ 10 * mantissa / 10 ^ places / magnitudeBound := by gcongr
    _ = 10 * (mantissa / 10 ^ places) / magnitudeBound := by rw [mul_div_assoc]
    _ ≤ 10 * quotientOf count mantissa remainder places / magnitudeBound := by gcongr
    _ ≤ tolerance (quotientOf count mantissa remainder places) :=
      le_add_of_nonneg_left (by positivity)

/-- Where there is no room for more places, one unit of the last place is within the tolerance. -/
theorem unit_le_tolerance (hfull : maxScale ≤ places ∨ magnitudeBound ≤ mantissa * 10) :
    1 / 10 ^ places ≤ tolerance (quotientOf count mantissa remainder places) := by
  rcases hfull with hplaces | hdigits
  · calc
      (1 : ℚ) / 10 ^ places ≤ 1 / 10 ^ maxScale := by
        gcongr
        norm_num
      _ ≤ tolerance (quotientOf count mantissa remainder places) := by
        have hexact := quotientOf_nonneg count mantissa remainder places
        exact le_add_of_nonneg_right (by positivity)
  · apply units_le_tolerance
    rw [one_mul, mul_comm]
    exact_mod_cast hdigits

section Rounding

variable (hremainder : remainder < count)
include hremainder

theorem fraction_bounds : (0 : ℚ) ≤ remainder / count ∧ (remainder : ℚ) / count < 1 := by
  have hcount : (0 : ℚ) < count := by exact_mod_cast (Nat.zero_le _).trans_lt hremainder
  refine ⟨by positivity, ?_⟩
  rw [div_lt_one hcount]
  exact_mod_cast hremainder

/-- Rounding up is as near as the last place allows, also where it costs a place. -/
theorem abs_raised_sub_le (hmantissa : mantissa < magnitudeBound)
    (hfull : maxScale ≤ places ∨ magnitudeBound ≤ mantissa * 10)
    (hroom : quotientOf count mantissa remainder places < magnitudeBound - 1) :
    |((raised mantissa places).1 : ℚ) / 10 ^ (raised mantissa places).2 -
        quotientOf count mantissa remainder places| ≤
      tolerance (quotientOf count mantissa remainder places) := by
  obtain ⟨hlow, hhigh⟩ := fraction_bounds hremainder
  unfold raised
  split
  next =>
    refine (abs_sub_quotientOf_le ?_).trans (unit_le_tolerance hfull)
    push_cast
    rw [abs_le]
    constructor <;> linarith
  next hcarry =>
    have hbound : mantissa + 1 = magnitudeBound := by omega
    have hcast : (mantissa : ℚ) = magnitudeBound - 1 := by
      rw [← hbound]
      push_cast
      ring
    have hrounded : roundDiv .toEven (mantissa + 1) 10 = magnitudeBound / 10 + 1 := by
      rw [hbound]
      decide
    cases places with
    | zero =>
      have hexact := le_quotientOf count mantissa remainder 0
      rw [pow_zero, div_one, hcast] at hexact
      linarith
    | succ fewer =>
      have hplace : ((magnitudeBound / 10 + 1 : ℕ) : ℚ) / 10 ^ fewer =
          ((magnitudeBound + 4 : ℕ) : ℚ) / 10 ^ (fewer + 1) := by
        rw [pow_succ, ← mul_div_mul_right _ _ (by norm_num : (10 : ℚ) ≠ 0)]
        norm_num [magnitudeBound]
      simp only [hrounded, Nat.add_sub_cancel, hplace]
      have hunits : |((magnitudeBound + 4 : ℕ) : ℚ) - (mantissa + remainder / count)| ≤ 5 := by
        rw [hcast]
        push_cast
        rw [abs_le]
        constructor <;> linarith
      have hlong : (5 : ℚ) * magnitudeBound ≤ 10 * mantissa := by
        rw [hcast]
        norm_num [magnitudeBound]
      exact (abs_sub_quotientOf_le hunits).trans (units_le_tolerance hlong)

/-- A digit too much leaves an error of ten of its units at most. -/
theorem abs_shortened_sub_le (hlong : magnitudeBound ≤ mantissa) :
    |((shortened mantissa remainder : ℕ) : ℚ) / 10 ^ places -
        quotientOf count mantissa remainder (places + 1)| ≤
      tolerance (quotientOf count mantissa remainder (places + 1)) := by
  obtain ⟨hlow, hhigh⟩ := fraction_bounds hremainder
  have hlower : mantissa ≤ shortened mantissa remainder * 10 + 9 := by
    unfold shortened
    dsimp only
    split <;> omega
  have hupper : shortened mantissa remainder * 10 ≤ mantissa + 10 := by
    unfold shortened
    dsimp only
    split <;> omega
  have hlower' : (mantissa : ℚ) ≤ shortened mantissa remainder * 10 + 9 := by exact_mod_cast hlower
  have hupper' : (shortened mantissa remainder * 10 : ℚ) ≤ mantissa + 10 := by exact_mod_cast hupper
  have hplace : ((shortened mantissa remainder : ℕ) : ℚ) / 10 ^ places =
      ((shortened mantissa remainder * 10 : ℕ) : ℚ) / 10 ^ (places + 1) := by
    rw [pow_succ]
    push_cast
    rw [mul_div_mul_right _ _ (by norm_num)]
  have hunits : |((shortened mantissa remainder * 10 : ℕ) : ℚ) - (mantissa + remainder / count)| ≤
      10 := by
    push_cast
    rw [abs_le]
    constructor <;> linarith
  rw [hplace]
  exact (abs_sub_quotientOf_le hunits).trans (units_le_tolerance (by gcongr))

/-- Lengthening stays as near to the exact quotient as there is room, if it has steps for all
places there can be. -/
theorem abs_lengthen_sub_le (steps : ℕ) (hmantissa : mantissa < magnitudeBound)
    (hplaces : places ≤ maxScale) (hsteps : maxScale < steps + places)
    (hroom : quotientOf count mantissa remainder places < magnitudeBound - 1) :
    |((lengthen count steps mantissa remainder places).1 : ℚ) /
          10 ^ (lengthen count steps mantissa remainder places).2 -
        quotientOf count mantissa remainder places| ≤
      tolerance (quotientOf count mantissa remainder places) := by
  have hcount : 0 < count := (Nat.zero_le _).trans_lt hremainder
  induction steps generalizing mantissa remainder places with
  | zero => omega
  | succ steps ih =>
    unfold lengthen
    split
    next hnone =>
      subst hnone
      rw [quotientOf_zero, sub_self, abs_zero]
      exact tolerance_nonneg (by positivity)
    next =>
      dsimp only
      split
      next hnone =>
        have hfull : maxScale ≤ places ∨ magnitudeBound ≤ mantissa * 10 := by
          refine (headroom_eq_zero hnone).imp_left fun hlimit ↦ ?_
          have hstep : 0 < divisionStep := by decide
          change Min.min divisionStep (maxScale - places) = 0 at hlimit
          omega
        split
        next => exact abs_raised_sub_le hremainder hmantissa hfull hroom
        next =>
          obtain ⟨hlow, hhigh⟩ := fraction_bounds hremainder
          refine (abs_sub_quotientOf_le ?_).trans (unit_le_tolerance hfull)
          rw [abs_le]
          constructor <;> linarith
      next hmore =>
        have hlimit := (headroom_le mantissa (Nat.min divisionStep (maxScale - places))).trans
          (Nat.min_le_right _ _)
        have hrest := Nat.mod_lt
          (remainder * tenPow (headroom mantissa (Nat.min divisionStep (maxScale - places)))) hcount
        generalize headroom mantissa (Nat.min divisionStep (maxScale - places)) = more at *
        rw [← quotientOf_longer hcount mantissa remainder places more] at hroom ⊢
        split
        next hshort => exact ih hrest hshort (by omega) (by omega) hroom
        next hlong =>
          obtain ⟨fewer, rfl⟩ := Nat.exists_eq_succ_of_ne_zero hmore
          exact abs_shortened_sub_le hrest (not_lt.mp hlong)

end Rounding

/-- A quotient by a count is exact up to the tolerance. -/
theorem abs_divCount_sub_le (hcount : 0 < count) (ha : 0 ≤ a.toRat) :
    |(a.divCount count hcount).toRat - a.toRat / count| ≤ tolerance (a.toRat / count) := by
  have hnonneg : 0 ≤ tolerance (a.toRat / count) := tolerance_nonneg (by positivity)
  unfold divCount
  split
  next hzero =>
    rw [toRat_zero, (isZero_iff_toRat_eq_zero a).mp hzero, zero_div, sub_zero, abs_zero]
    exact tolerance_nonneg le_rfl
  next hzero =>
    have hpositive := toRat_pos_of_not_isZero ha hzero
    have hsign := negative_eq_false_of_pos hpositive
    have hquotient := quotientOf_div_mod hcount a.magnitude a.scale
    rw [← toRat_eq_of_pos hpositive] at hquotient
    split
    next hdvd =>
      rw [Nat.mod_eq_zero_of_dvd hdvd, quotientOf_zero] at hquotient
      rw [toRat_signed, hsign]
      simpa [hquotient] using hnonneg
    next hndvd =>
      have htwo : 2 ≤ count := by
        by_contra hless
        exact hndvd ((by omega : count = 1) ▸ one_dvd _)
      have hroom : a.toRat / count < magnitudeBound - 1 := by
        have hbound := (abs_le.mp (toRat_abs_le a)).2
        have htwo' : (2 : ℚ) ≤ count := by exact_mod_cast htwo
        rw [div_lt_iff₀ (by linarith)]
        refine hbound.trans_lt ((lt_mul_iff_one_lt_right ?_).mpr (by linarith))
        norm_num [magnitudeBound]
      rw [← hquotient] at hroom ⊢
      rw [toRat_signed, hsign]
      simp only [Bool.false_eq_true, if_false, inexactQuotient, unscale_div]
      exact abs_lengthen_sub_le (Nat.mod_lt _ hcount) _
        ((Nat.div_le_self _ _).trans_lt a.magnitude_lt) a.scale_le (by omega) hroom

theorem toRat_divCount_neg (hcount : 0 < count) :
    ((-a).divCount count hcount).toRat = -(a.divCount count hcount).toRat := by
  have hzero : (-a).isZero = a.isZero := rfl
  have hmagnitude : (-a).magnitude = a.magnitude := rfl
  have hscale : (-a).scale = a.scale := rfl
  have hsign : (-a).negative = !a.negative := rfl
  unfold divCount
  rw [hzero]
  split
  · rw [toRat_zero, neg_zero]
  · simp only [hmagnitude, hscale, hsign]
    split <;> rw [toRat_signed, toRat_signed] <;> cases a.negative <;> simp [neg_div]

/-- The tolerance does not depend on the sign. -/
theorem abs_divCount_sub_le_abs (hcount : 0 < count) :
    |(a.divCount count hcount).toRat - a.toRat / count| ≤ tolerance (|a.toRat| / count) := by
  rcases le_total 0 a.toRat with hnonneg | hnegative
  · rw [abs_of_nonneg hnonneg]
    exact abs_divCount_sub_le hcount hnonneg
  · have hopposite : 0 ≤ (-a).toRat := by
      rw [toRat_neg]
      exact neg_nonneg.mpr hnegative
    have herror := abs_divCount_sub_le hcount hopposite
    rw [toRat_divCount_neg, toRat_neg, neg_div, neg_sub_neg, abs_sub_comm, ← neg_div] at herror
    rwa [abs_of_nonpos hnegative]

end Decimal
end ShopPayments
