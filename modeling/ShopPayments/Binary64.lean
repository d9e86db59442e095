import ShopPayments.Powers
import ShopPayments.Rounding

/-!
# Binary64 magnitudes

The finite nonnegative numbers of the binary64 format, as a mantissa over a
power of two. Every operation is the exact one on fractions of naturals followed
by `Binary64.nearest`, so nothing here depends on the hardware.
-/

namespace ShopPayments

/-- The number `mantissa * 2 ^ exponent`; normal numbers have a mantissa of 53 bits. -/
structure Binary64 where
  mantissa : Nat
  exponent : Int
  deriving DecidableEq, Repr, Inhabited

namespace Binary64

/-- The exponent of the subnormal numbers. -/
def minExponent : Int := -1074

/-- The largest exponent of a finite number. -/
def maxExponent : Int := 971

/-- The first mantissa of 54 bits, two to the power of 53. -/
def mantissaBound : Nat := 9007199254740992

instance : Zero Binary64 := ⟨⟨0, minExponent⟩⟩

/-- Numerator of the exact value. -/
def num (x : Binary64) : Nat := x.mantissa * twoPow x.exponent.toNat

/-- Denominator of the exact value, a power of two. -/
def den (x : Binary64) : Nat := twoPow (-x.exponent).toNat

/-- The fraction `num / den` in units of `2 ^ exponent`, rounded half to even. -/
def inUnits (num den : Nat) (exponent : Int) : Nat :=
  roundDiv .toEven (num * twoPow (-exponent).toNat) (den * twoPow exponent.toNat)

/-- The exponent at which `num / den` has an integer part of 53 bits, or the least one. -/
def exponentOf (num den : Nat) : Int :=
  let guess := (Nat.log2 num : Int) - Nat.log2 den - 53
  let fits := num * twoPow (-guess).toNat / (den * twoPow guess.toNat) < mantissaBound
  Max.max (if fits then guess else guess + 1) minExponent

/-- The number nearest to `num / den`, a tie going to the even mantissa. -/
def nearest (num den : Nat) : Binary64 :=
  if num = 0 then 0
  else
    let exponent := exponentOf num den
    let mantissa := inUnits num den exponent
    if mantissa < mantissaBound then ⟨mantissa, exponent⟩ else ⟨mantissa / 2, exponent + 1⟩

/-- Whether the number is in the range of the format. -/
def isFinite (x : Binary64) : Bool := x.exponent ≤ maxExponent

/-- The nearest number to a natural. -/
def ofNat (n : Nat) : Binary64 := nearest n 1

/-- The rounded sum. -/
def add (x y : Binary64) : Binary64 := nearest (x.num * y.den + y.num * x.den) (x.den * y.den)

/-- The rounded product. -/
def mul (x y : Binary64) : Binary64 := nearest (x.num * y.num) (x.den * y.den)

/-- The rounded quotient by a nonzero number. -/
def div (x y : Binary64) : Binary64 := nearest (x.num * y.den) (x.den * y.num)

/-- The nearest whole number, a half going up. -/
def round (x : Binary64) : Binary64 := ofNat (roundDiv .away x.num x.den)

/-- Multiplies an accumulator by `base ^ n` through repeated squaring, rounding at each step. -/
def powInto (acc base : Binary64) (n : Nat) : Binary64 :=
  if h : n = 0 then acc
  else
    let raised := if n % 2 = 1 then acc.mul base else acc
    if n / 2 = 0 then raised else powInto raised (base.mul base) (n / 2)
termination_by n

/-- A power by repeated squaring. -/
def pow (base : Binary64) (n : Nat) : Binary64 := powInto (ofNat 1) base n

/-- The largest power of ten in the range of the format. -/
def maxTenPower : Nat := 308

/-- The number nearest to a power of ten. -/
def tenPower (exponent : Nat) : Binary64 := ofNat (tenPow exponent)

/-- Divides by a power of ten, by the largest one at a time, rounding at each step. -/
def divTenPower (x : Binary64) (places : Nat) : Binary64 :=
  if places ≤ maxTenPower then x.div (tenPower places)
  else if x.mantissa = 0 then x
  else divTenPower (x.div (tenPower maxTenPower)) (places - maxTenPower)
termination_by places
decreasing_by
  have : maxTenPower = 308 := rfl
  omega

/-- Multiplies by a power of ten, unless that leaves the range of the format. -/
def mulTenPower? (x : Binary64) (zeros : Nat) : Option Binary64 :=
  if x.mantissa = 0 then some x
  else if maxTenPower < zeros then none
  else
    let product := x.mul (tenPower zeros)
    if product.isFinite then some product else none

/-- A significand times a power of ten. The significand, the power and the result are each
rounded, so it may be a neighbour of the nearest number. -/
def scaled? (significand : Nat) (exponent : Int) : Option Binary64 :=
  if exponent < 0 then some ((ofNat significand).divTenPower exponent.natAbs)
  else (ofNat significand).mulTenPower? exponent.toNat

end Binary64
end ShopPayments
