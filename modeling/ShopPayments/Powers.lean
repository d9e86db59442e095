/-!
# Powers of ten and two

Places of decimals are counted in powers of ten, binary digits in powers of two.
`tenPow_add` and `tenPow_le_tenPow` are what the arithmetic of places rests on.
-/

namespace ShopPayments

/-- The power of ten with the given exponent. -/
def tenPow (exponent : Nat) : Nat := Nat.pow 10 exponent

/-- The power of two with the given exponent. -/
def twoPow (exponent : Nat) : Nat := Nat.pow 2 exponent

theorem tenPow_zero : tenPow 0 = 1 := rfl

theorem tenPow_succ (n : Nat) : tenPow (n + 1) = tenPow n * 10 := rfl

theorem tenPow_pos (n : Nat) : 0 < tenPow n := Nat.pow_pos (by decide)

theorem tenPow_add (m n : Nat) : tenPow (m + n) = tenPow m * tenPow n := Nat.pow_add 10 m n

theorem tenPow_le_tenPow {m n : Nat} (h : m ≤ n) : tenPow m ≤ tenPow n :=
  Nat.pow_le_pow_right (by decide) h

end ShopPayments
