/-!
# Rounded division

A quotient of naturals is rounded to the nearest natural. Only an exact half
leaves a choice, which a `Tie` makes: to the even neighbour, or upwards, that is
away from zero for a magnitude. `roundDiv_of_dvd` and `le_roundDiv` with
`roundDiv_le` place the result next to the exact quotient.
-/

namespace ShopPayments

/-- How the exact midpoint between two neighbours is settled. -/
inductive Tie where
  | toEven
  | away
  deriving DecidableEq, Repr

namespace Tie

/-- Whether a quotient whose remainder is exactly one half is raised. -/
def raises (tie : Tie) (quotient : Nat) : Bool :=
  match tie with
  | .toEven => quotient % 2 = 1
  | .away => true

end Tie

/-- Whether the quotient `num / den` is raised to its upper neighbour. -/
def roundsUp (tie : Tie) (num den : Nat) : Bool :=
  den < 2 * (num % den) || (2 * (num % den) = den && tie.raises (num / den))

/-- The natural number nearest to `num / den`. -/
def roundDiv (tie : Tie) (num den : Nat) : Nat :=
  if roundsUp tie num den then num / den + 1 else num / den

theorem roundDiv_one (tie : Tie) (num : Nat) : roundDiv tie num 1 = num := by
  simp [roundDiv, roundsUp, Nat.mod_one]

theorem roundDiv_of_dvd (tie : Tie) {num den : Nat} (hden : 0 < den) (h : den ∣ num) :
    roundDiv tie num den = num / den := by
  have hmod : num % den = 0 := Nat.mod_eq_zero_of_dvd h
  have hne : ¬ (0 = den) := by omega
  simp [roundDiv, roundsUp, hmod, hne]

theorem div_le_roundDiv (tie : Tie) (num den : Nat) : num / den ≤ roundDiv tie num den := by
  unfold roundDiv
  split <;> omega

theorem roundDiv_le_succ (tie : Tie) (num den : Nat) :
    roundDiv tie num den ≤ num / den + 1 := by
  unfold roundDiv
  split <;> omega

end ShopPayments
