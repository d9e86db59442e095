import ShopPayments.Powers
import ShopPayments.Rounding

/-!
# Decimal numbers of bounded length

A `Decimal` is a sign, a magnitude of at most 96 bits and a power of ten of at
most 28 places under it. The number of places is part of the value: `1.50` and
`1.5` are equal as quantities (`Decimal.Same`) and different as texts. So is the
sign of a zero: computed zeros carry none (`Decimal.signed`), but a negative
number of which an exponent leaves no digit keeps its minus. Whatever is longer
than that is shortened by `Decimal.fit`, which keeps as many places as there is
room for.
-/

namespace ShopPayments

namespace Decimal

/-- The first magnitude that is too large, two to the power of 96. -/
def magnitudeBound : Nat := 79228162514264337593543950336

/-- The largest number of places. -/
def maxScale : Nat := 28

end Decimal

/-- A signed magnitude with `scale` places after the point. -/
structure Decimal where
  negative : Bool
  magnitude : Nat
  scale : Nat
  magnitude_lt : magnitude < Decimal.magnitudeBound
  scale_le : scale ≤ Decimal.maxScale
  deriving DecidableEq

/-- The operation whose result has no room: one on decimals, or a count of units or refunds. -/
inductive Overflow where
  | addition
  | subtraction
  | multiplication
  | count
  deriving DecidableEq, Repr

/-- The wording of an overflow. -/
def Overflow.message : Overflow → String
  | .addition => "Addition overflowed"
  | .subtraction => "Subtraction overflowed"
  | .multiplication => "Multiplication overflowed"
  | .count => "attempt to add with overflow"

namespace Decimal

/-- The decimal with the given parts, where a zero has no minus. -/
def signed (negative : Bool) (magnitude scale : Nat) (magnitude_lt : magnitude < magnitudeBound)
    (scale_le : scale ≤ maxScale) : Decimal :=
  ⟨negative && magnitude != 0, magnitude, scale, magnitude_lt, scale_le⟩

/-- The decimal with the given parts, where there is one. -/
def signed? (negative : Bool) (magnitude scale : Nat) : Option Decimal :=
  if h : magnitude < magnitudeBound ∧ scale ≤ maxScale then
    some (signed negative magnitude scale h.1 h.2)
  else none

instance : Zero Decimal := ⟨⟨false, 0, 0, by decide, by decide⟩⟩

instance : Inhabited Decimal := ⟨0⟩

/-- A quantity of 32 bits as a decimal without places. -/
def ofUInt32 (n : UInt32) : Decimal :=
  ⟨false, n.toNat, 0, by have := n.toNat_lt; simp only [magnitudeBound]; omega, by decide⟩

/-- One hundred, the base of percentages. -/
def hundred : Decimal := ofUInt32 100

/-- Magnitude and sign in one number. -/
def mantissa (d : Decimal) : Int := if d.negative then -d.magnitude else d.magnitude

/-- The quantity as a fraction of integers: numerator over a power of ten. -/
def toRat (d : Decimal) : Rat := mkRat d.mantissa (tenPow d.scale)

/-- The mantissa with zeros behind it. -/
def shifted (d : Decimal) (zeros : Nat) : Int := d.mantissa * tenPow zeros

/-- Sign of the difference of two quantities, whatever their places. -/
def compare (a b : Decimal) : Ordering :=
  Ord.compare (a.shifted b.scale) (b.shifted a.scale)

instance : LT Decimal := ⟨fun a b => a.shifted b.scale < b.shifted a.scale⟩

instance : LE Decimal := ⟨fun a b => a.shifted b.scale ≤ b.shifted a.scale⟩

instance (a b : Decimal) : Decidable (a < b) :=
  inferInstanceAs (Decidable (a.shifted b.scale < b.shifted a.scale))

instance (a b : Decimal) : Decidable (a ≤ b) :=
  inferInstanceAs (Decidable (a.shifted b.scale ≤ b.shifted a.scale))

/-- Equal quantities, possibly with different places. -/
def Same (a b : Decimal) : Prop := a.shifted b.scale = b.shifted a.scale

instance (a b : Decimal) : Decidable (a.Same b) :=
  inferInstanceAs (Decidable (a.shifted b.scale = b.shifted a.scale))

/-- Whether the quantity is zero. -/
def isZero (d : Decimal) : Bool := d.magnitude = 0

/-- The same magnitude with the other sign. -/
def neg (d : Decimal) : Decimal := { d with negative := !d.negative }

instance : Neg Decimal := ⟨neg⟩

/-- The larger quantity; of two equal ones the first. -/
def max (a b : Decimal) : Decimal := if a < b then b else a

/-- The smaller quantity; of two equal ones the first. -/
def min (a b : Decimal) : Decimal := if b < a then b else a

/-- The most places not above the given number at which `magnitude / 10 ^ scale`, cut off,
fits. -/
def roomiestScale (magnitude scale : Nat) : Nat → Option Nat
  | 0 => if magnitude / tenPow scale < magnitudeBound then some 0 else none
  | places + 1 =>
    if magnitude / tenPow (scale - (places + 1)) < magnitudeBound then some (places + 1)
    else roomiestScale magnitude scale places

/-- Rounds `magnitude / 10 ^ scale` half to even to as many places as there is room for. -/
def fitMagnitude (magnitude scale : Nat) : Option (Nat × Nat) :=
  match roomiestScale magnitude scale (Nat.min scale maxScale) with
  | none => none
  | some places =>
    let rounded := roundDiv .toEven magnitude (tenPow (scale - places))
    if rounded < magnitudeBound then some (rounded, places)
    else
      match places with
      | 0 => none
      | fewer + 1 => some (roundDiv .toEven rounded 10, fewer)

/-- The longest decimal for `mantissa / 10 ^ scale`, rounded half to even; none when already
the integer part has no room. -/
def fit (mantissa : Int) (scale : Nat) : Option Decimal := do
  let (magnitude, places) ← fitMagnitude mantissa.natAbs scale
  signed? (mantissa < 0) magnitude places

end Decimal

end ShopPayments
