import Mathlib.Tactic.Linarith
import Mathlib.Tactic.Ring
import ShopPayments.Rounding

/-!
# Order and error of rounded division

Rounding a quotient to the nearest natural keeps its order, whatever the two denominators are
and however a tie is settled.  A whole number below the quotient therefore stays below it, and
one above it stays above.  The rounded quotient is at most half a unit away from the exact one,
and if a tie goes away from zero, exactly what is less than a half gives nothing.
-/

namespace ShopPayments

variable {tie : Tie} {num den num' den' k : ℕ}

/-- Two quotients with the same whole part compare as their remainders. -/
theorem roundsUp_of_mod_le (hden : 0 < den) (hden' : 0 < den')
    (hdiv : num / den = num' / den') (hmod : num % den * den' ≤ num' % den' * den)
    (hup : roundsUp tie num den = true) : roundsUp tie num' den' = true := by
  simp only [roundsUp, Bool.or_eq_true, decide_eq_true_eq, Bool.and_eq_true] at hup ⊢
  rcases hup with hmore | ⟨hhalf, hraises⟩
  · left
    have hlt : den * den' < 2 * (num % den) * den' := Nat.mul_lt_mul_of_pos_right hmore hden'
    have hchain : den * den' < den * (2 * (num' % den')) := by
      calc
        den * den' < 2 * (num % den) * den' := hlt
        _ = 2 * (num % den * den') := by ring
        _ ≤ 2 * (num' % den' * den) := Nat.mul_le_mul_left 2 hmod
        _ = den * (2 * (num' % den')) := by ring
    exact Nat.lt_of_mul_lt_mul_left hchain
  · have hchain : den * den' ≤ den * (2 * (num' % den')) := by
      calc
        den * den' = 2 * (num % den) * den' := by rw [hhalf]
        _ = 2 * (num % den * den') := by ring
        _ ≤ 2 * (num' % den' * den) := Nat.mul_le_mul_left 2 hmod
        _ = den * (2 * (num' % den')) := by ring
    have hle : den' ≤ 2 * (num' % den') := Nat.le_of_mul_le_mul_left hchain hden
    rcases hle.lt_or_eq with hlt | heq
    · exact Or.inl hlt
    · exact Or.inr ⟨heq.symm, hdiv ▸ hraises⟩

theorem roundDiv_mono (hden : 0 < den) (hden' : 0 < den') (h : num * den' ≤ num' * den) :
    roundDiv tie num den ≤ roundDiv tie num' den' := by
  have hdiv : num / den ≤ num' / den' := by
    rw [Nat.le_div_iff_mul_le hden']
    have hfloor := Nat.mul_le_mul_right den' (Nat.div_mul_le_self num den)
    have hchain : num / den * den' * den ≤ num' * den := by
      calc
        num / den * den' * den = num / den * den * den' := by ring
        _ ≤ num * den' := hfloor
        _ ≤ num' * den := h
    exact Nat.le_of_mul_le_mul_right hchain hden
  rcases hdiv.lt_or_eq with hlt | heq
  · calc
      roundDiv tie num den ≤ num / den + 1 := roundDiv_le_succ tie num den
      _ ≤ num' / den' := Nat.succ_le_of_lt hlt
      _ ≤ roundDiv tie num' den' := div_le_roundDiv tie num' den'
  · have hmod : num % den * den' ≤ num' % den' * den := by
      have hnum := congrArg (· * den') (Nat.div_add_mod num den)
      have hnum' := congrArg (· * den) (Nat.div_add_mod num' den')
      simp only [Nat.add_mul, heq] at hnum hnum'
      have hcomm : den * (num' / den') * den' = den' * (num' / den') * den := by ring
      omega
    unfold roundDiv
    split
    next hup =>
      rw [if_pos (roundsUp_of_mod_le hden hden' heq hmod hup), heq]
    next => split <;> omega

theorem roundDiv_mul_self (tie : Tie) (k : ℕ) (hden : 0 < den) :
    roundDiv tie (k * den) den = k := by
  rw [roundDiv_of_dvd tie hden (Dvd.intro_left k rfl), Nat.mul_div_cancel k hden]

theorem le_roundDiv (hden : 0 < den) (h : k * den ≤ num) : k ≤ roundDiv tie num den := by
  rw [← roundDiv_mul_self tie k hden]
  exact roundDiv_mono hden hden (Nat.mul_le_mul_right den h)

theorem roundDiv_le (hden : 0 < den) (h : num ≤ k * den) : roundDiv tie num den ≤ k := by
  rw [← roundDiv_mul_self tie k hden]
  exact roundDiv_mono hden hden (Nat.mul_le_mul_right den h)

/-- The rounded quotient exceeds the exact one by at most a half. -/
theorem two_mul_roundDiv_le (tie : Tie) (num : ℕ) (hden : 0 < den) :
    2 * (roundDiv tie num den * den) ≤ 2 * num + den := by
  have hsplit := Nat.div_add_mod' num den
  unfold roundDiv
  split
  next hup =>
    simp only [roundsUp, Bool.or_eq_true, decide_eq_true_eq, Bool.and_eq_true] at hup
    rw [Nat.add_mul, Nat.one_mul]
    rcases hup with hmore | ⟨hhalf, _⟩ <;> omega
  next => omega

/-- The rounded quotient falls short of the exact one by at most a half. -/
theorem two_mul_le_roundDiv (tie : Tie) (num : ℕ) (hden : 0 < den) :
    2 * num ≤ 2 * (roundDiv tie num den * den) + den := by
  have hsplit := Nat.div_add_mod' num den
  have hmod := Nat.mod_lt num hden
  unfold roundDiv
  split
  next => rw [Nat.add_mul, Nat.one_mul]; omega
  next hup =>
    simp only [roundsUp, Bool.or_eq_true, decide_eq_true_eq, Bool.and_eq_true, not_or] at hup
    omega

/-- Where a half goes away from zero, only less than a half is rounded to nothing. -/
theorem roundDiv_away_eq_zero_iff (num : ℕ) (hden : 0 < den) :
    roundDiv .away num den = 0 ↔ 2 * num < den := by
  constructor
  · intro hzero
    by_contra hhalf
    have hone : roundDiv .away 1 2 ≤ roundDiv .away num den :=
      roundDiv_mono two_pos hden (by omega)
    have : roundDiv .away 1 2 = 1 := by decide
    omega
  · intro hless
    by_contra hne
    have hone := Nat.mul_le_mul_right den (Nat.one_le_iff_ne_zero.mpr hne)
    have := two_mul_roundDiv_le .away num hden
    omega

end ShopPayments
