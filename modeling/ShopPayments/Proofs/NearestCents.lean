import ShopPayments.Proofs.Money

/-!
# The nearest cents

Rounding gives the whole number of cents nearest to an amount, and of two that are equally near
the one of larger magnitude.  There is only one such number (`IsNearest.unique`), so the laws of
rounding are laws of nearest cents: rounding keeps the order, commutes with the sign, and never
passes a whole number of cents.  A rounded amount takes no longer magnitude than the amount had, so
rounding always has room.
-/

namespace ShopPayments
namespace Money

variable {x y r c : ℚ}

/-- Whole cents within half a cent of a quantity; from the middle between two of them, the one of
larger magnitude. -/
structure IsNearest (x r : ℚ) : Prop where
  isCents : IsCents r
  near : |x - r| ≤ 1 / 200
  middle : ∀ a, IsCents a → x = a + 1 / 200 → r = if |a| < |a + 1 / 100| then a + 1 / 100 else a

/-! ## Whole cents -/

theorem IsCents.neg (h : IsCents x) : IsCents (-x) := by
  obtain ⟨n, rfl⟩ := h
  exact ⟨-n, by push_cast; ring⟩

theorem isCents_one_hundredth : IsCents (1 / 100) := ⟨1, by norm_num⟩

/-- Of two different numbers of cents the larger one is a cent ahead. -/
theorem IsCents.add_le_of_lt (hx : IsCents x) (hy : IsCents y) (h : x < y) : x + 1 / 100 ≤ y := by
  have hless := (hx.sub hy).le_of_neg (sub_neg.mpr h)
  linarith

/-- The two ends of a cent differ in magnitude: zero is one of them or lies outside. -/
theorem IsCents.abs_lt_iff (h : IsCents x) : |x| < |x + 1 / 100| ↔ 0 ≤ x := by
  constructor
  · intro hless
    by_contra hnegative
    have hle := h.le_of_neg (not_le.mp hnegative)
    rw [abs_of_neg (not_le.mp hnegative), abs_of_nonpos (by linarith)] at hless
    linarith
  · intro hnonneg
    rw [abs_of_nonneg hnonneg, abs_of_nonneg (by linarith)]
    linarith

/-! ## Nearest cents -/

namespace IsNearest

theorem unique {r' : ℚ} (h : IsNearest x r) (h' : IsNearest x r') : r = r' := by
  -- Different numbers of cents, both within half a cent, are the two ends of a cent around `x`.
  have hends {a b : ℚ} (ha : IsNearest x a) (hb : IsNearest x b) (hlt : a < b) :
      x = a + 1 / 200 := by
    have hahead := ha.isCents.add_le_of_lt hb.isCents hlt
    have hlow := (abs_le.mp ha.near).2
    have hhigh := (abs_le.mp hb.near).1
    linarith
  rcases lt_trichotomy r r' with hlt | heq | hlt
  · have hmiddle := hends h h' hlt
    exact (h.middle r h.isCents hmiddle).trans (h'.middle r h.isCents hmiddle).symm
  · exact heq
  · have hmiddle := hends h' h hlt
    exact (h.middle r' h'.isCents hmiddle).trans (h'.middle r' h'.isCents hmiddle).symm

theorem neg (h : IsNearest x r) : IsNearest (-x) (-r) where
  isCents := h.isCents.neg
  near := by rw [neg_sub_neg, abs_sub_comm]; exact h.near
  middle a ha hmiddle := by
    -- The middle above `a` is the one below `-a`.
    have hbelow : IsCents (-a - 1 / 100) := ha.neg.sub isCents_one_hundredth
    rw [h.middle (-a - 1 / 100) hbelow (by linarith), if_congr hbelow.abs_lt_iff rfl rfl,
      if_congr ha.abs_lt_iff rfl rfl]
    by_cases hnonneg : 0 ≤ a
    · rw [if_neg (by linarith), if_pos hnonneg]
      ring
    · have hle := ha.le_of_neg (not_le.mp hnonneg)
      rw [if_pos (by linarith), if_neg hnonneg]
      ring

/-- Nearest cents do not pass a whole number of cents. -/
theorem le_of_le (h : IsNearest x r) (hc : IsCents c) (hle : x ≤ c) : r ≤ c := by
  by_contra hnot
  have hahead := hc.add_le_of_lt h.isCents (not_le.mp hnot)
  have hnear := (abs_le.mp h.near).1
  linarith

theorem ge_of_ge (h : IsNearest x r) (hc : IsCents c) (hle : c ≤ x) : c ≤ r :=
  neg_le_neg_iff.mp (h.neg.le_of_le hc.neg (neg_le_neg hle))

end IsNearest

/-! ## Rounding -/

/-- From the middle a magnitude goes up. -/
theorem roundDiv_away_of_middle {num den k : ℕ} (hden : 0 < den)
    (h : num * 2 = (2 * k + 1) * den) : roundDiv .away num den = k + 1 := by
  have hwhole : (2 * k + 1) / 2 = k := by omega
  have hrest : (2 * k + 1) % 2 = 1 := by omega
  rw [roundDiv_congr hden two_pos h, roundDiv, if_pos, hwhole]
  simp [roundsUp, hrest, Tie.raises]

theorem toRat_round_of_middle_of_nonneg {d : Decimal} {k : ℕ}
    (h : d.toRat = (2 * k + 1) / 200) : (round d).toRat = (k + 1) / 100 := by
  have hpositive : 0 < d.toRat := by rw [h]; positivity
  have hten : (0 : ℚ) < (tenPow d.scale : ℕ) := by exact_mod_cast tenPow_pos d.scale
  have hsign := Decimal.negative_eq_false_of_pos hpositive
  have hmagnitude : d.magnitude * 100 * 2 = (2 * k + 1) * tenPow d.scale := by
    rw [toRat_eq_hundredths, hsign, if_neg Bool.false_ne_true, div_div,
      div_eq_div_iff (by positivity) (by norm_num)] at h
    have hcast : ((d.magnitude * 100 * 2 : ℕ) : ℚ) = ((2 * k + 1) * tenPow d.scale : ℕ) := by
      push_cast at h ⊢
      linarith
    exact_mod_cast hcast
  rw [toRat_round, cents, hsign, if_neg Bool.false_ne_true, centsMagnitude,
    roundDiv_away_of_middle (tenPow_pos _) hmagnitude]
  push_cast
  rfl

theorem toRat_round_neg (d : Decimal) : (round (-d)).toRat = -(round d).toRat := by
  have hmagnitude : centsMagnitude (-d) = centsMagnitude d := rfl
  have hsign : (-d).negative = !d.negative := rfl
  rw [toRat_round, toRat_round, cents, cents, hmagnitude, hsign, ← neg_div, ← Int.cast_neg]
  cases d.negative <;> simp

theorem isNearest_round (d : Decimal) : IsNearest d.toRat (round d).toRat where
  isCents := round_isCents d
  near := abs_sub_round_le d
  middle a ha hmiddle := by
    rw [if_congr ha.abs_lt_iff rfl rfl]
    obtain ⟨n, rfl⟩ := ha
    rcases le_or_gt 0 n with hnonneg | hnegative
    · lift n to ℕ using hnonneg
      rw [if_pos (by positivity), toRat_round_of_middle_of_nonneg (k := n)]
      · push_cast
        ring
      · rw [hmiddle]
        push_cast
        ring
    · -- A negative middle is rounded as its magnitude is.
      obtain ⟨k, rfl⟩ : ∃ k : ℕ, n = -1 - k := ⟨(-1 - n).toNat, by omega⟩
      have hopposite : (round (-d)).toRat = (k + 1) / 100 := by
        apply toRat_round_of_middle_of_nonneg
        rw [Decimal.toRat_neg, hmiddle]
        push_cast
        ring
      have hbelow : ¬ 0 ≤ ((-1 - k : ℤ) : ℚ) / 100 := by
        rw [not_le]
        exact div_neg_of_neg_of_pos (by exact_mod_cast hnegative) (by norm_num)
      rw [if_neg hbelow, ← neg_inj, ← toRat_round_neg, hopposite]
      push_cast
      ring

/-- Rounding never needs a longer magnitude. -/
theorem magnitude_round_le (d : Decimal) : (round d).magnitude ≤ d.magnitude := by
  unfold round Decimal.roundTo
  split
  next hlong =>
    have hshort : roundDiv .away d.magnitude (tenPow (d.scale - places)) ≤ d.magnitude :=
      roundDiv_le (tenPow_pos _) (Nat.le_mul_of_pos_right _ (tenPow_pos _))
    dsimp only
    split <;> exact hshort
  next => exact le_rfl

/-- **Rounding to cents is rounding.**  It gives a decimal of at most two places with no longer
magnitude, the nearest cents, and once rounded an amount stays as it is.  Rounding commutes with the
sign, keeps the order of amounts and passes no whole number of cents. -/
theorem round_laws (x y : Decimal) :
    (round x).scale ≤ 2 ∧ (round x).magnitude ≤ x.magnitude ∧
      IsNearest x.toRat (round x).toRat ∧
      round (round x) = round x ∧ (round (-x)).Same (-round x) ∧
      (x ≤ y → round x ≤ round y) ∧
      ∀ c, IsCents c →
        (x.toRat ≤ c → (round x).toRat ≤ c) ∧ (c ≤ x.toRat → c ≤ (round x).toRat) := by
  refine ⟨round_scale_le x, magnitude_round_le x, isNearest_round x,
    round_of_scale_le (round_scale_le x), ?_, ?_, ?_⟩
  · rw [Decimal.same_iff_toRat_eq, toRat_round_neg, Decimal.toRat_neg]
  · intro hle
    exact Decimal.le_iff_toRat_le.mpr (round_mono (Decimal.le_iff_toRat_le.mp hle))
  · intro c hc
    exact ⟨(isNearest_round x).le_of_le hc, (isNearest_round x).ge_of_ge hc⟩

/-- Half a cent more than one. -/
def oneAndHalfCent : Decimal := ⟨false, 1005, 3, by decide, Decimal.three_le_maxScale⟩

theorem round_laws_oneAndHalfCent :
    (round oneAndHalfCent).toRat = 101 / 100 ∧ (round (-oneAndHalfCent)).toRat = -101 / 100 ∧
      round oneAndHalfCent ≤ round (.ofUInt32 2) := by
  have hquantity : oneAndHalfCent.toRat = 1 + 1 / 200 := by
    norm_num [Decimal.toRat_eq, Decimal.mantissa, oneAndHalfCent]
  obtain ⟨-, -, hnearest, -, hsign, hmono, -⟩ := round_laws oneAndHalfCent (.ofUInt32 2)
  have hround := hnearest.middle 1 ⟨100, by norm_num⟩ hquantity
  norm_num at hround
  refine ⟨hround, ?_, hmono (by decide)⟩
  rw [Decimal.same_iff_toRat_eq.mp hsign, Decimal.toRat_neg, hround]
  norm_num

end Money
end ShopPayments
