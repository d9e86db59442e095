import ShopPayments.Binary64

/-!
# Shortest decimal digits

Among the decimals that read back as a given binary64 number, `Binary64.shortest`
takes one with the fewest significant digits, and of those the nearest. For a
growing number of digits it looks at the two neighbours of the number on the
decimal grid, in exact arithmetic, until one of them lies between the midpoints
to the adjacent numbers.
-/

namespace ShopPayments
namespace Binary64

/-- The number `digits * 10 ^ exponent`. -/
structure Digits where
  digits : Nat
  exponent : Int
  deriving DecidableEq, Repr

/-- Whether `candidate / den` rounds to `x`; the midpoints to the neighbours of an even
mantissa belong to it. -/
def attracts (x : Binary64) (num den : Nat) : Bool :=
  let unit := den * twoPow x.exponent.toNat
  let scaled := num * twoPow (-x.exponent).toNat
  let closed := x.mantissa % 2 = 0
  let lowest := 2 * x.mantissa = mantissaBound && minExponent < x.exponent
  let low := if lowest then (4 * x.mantissa - 1) * unit else (4 * x.mantissa - 2) * unit
  let high := (4 * x.mantissa + 2) * unit
  if closed then low ≤ 4 * scaled && 4 * scaled ≤ high
  else low < 4 * scaled && 4 * scaled < high

/-- The whole number of units of `10 ^ exponent` below `x`, and twice the rest compared with a
unit. -/
def onGrid (x : Binary64) (exponent : Int) : Nat × Ordering :=
  let num := x.num * tenPow (-exponent).toNat
  let unit := x.den * tenPow exponent.toNat
  (num / unit, compare (2 * (num % unit)) unit)

/-- Whether `digits * 10 ^ exponent` rounds to `x`. -/
def readsBack (x : Binary64) (digits : Nat) (exponent : Int) : Bool :=
  x.attracts (digits * tenPow exponent.toNat) (tenPow (-exponent).toNat)

/-- The better neighbour of `x` on a decimal grid, if one of them rounds to `x`. -/
def neighbour? (x : Binary64) (tie : Tie) (exponent : Int) : Option Digits :=
  let (below, half) := x.onGrid exponent
  let lower := x.readsBack below exponent
  let upper := x.readsBack (below + 1) exponent
  let preferUpper :=
    match half with
    | .lt => false
    | .gt => true
    | .eq => tie.raises below
  if lower && !(upper && preferUpper) then some ⟨below, exponent⟩
  else if upper then some ⟨below + 1, exponent⟩
  else none

/-- The number of integer digits of `x`, counted below zero for leading zeros of a fraction. -/
def decimalPoint (x : Binary64) : Int :=
  if x.den ≤ x.num then (Nat.toDigits 10 (x.num / x.den)).length
  else 1 - (Nat.toDigits 10 ((x.den - 1) / x.num)).length

/-- Tries grids of one digit more each time, for at most the given number of times. -/
def search (x : Binary64) (tie : Tie) (exponent : Int) : Nat → Digits
  | 0 => ⟨(x.onGrid exponent).1, exponent⟩
  | rounds + 1 =>
    match x.neighbour? tie exponent with
    | some digits => digits
    | none => search x tie (exponent - 1) rounds

/-- Moves zeros at the end of the digits into the exponent. -/
def Digits.trim (d : Digits) : Nat → Digits
  | 0 => d
  | rounds + 1 =>
    if d.digits % 10 = 0 && d.digits != 0 then
      Digits.trim ⟨d.digits / 10, d.exponent + 1⟩ rounds
    else d

/-- The fewest digits that read back as `x`. Seventeen digits always suffice. -/
def shortest (x : Binary64) (tie : Tie) : Digits :=
  if x.mantissa = 0 then ⟨0, 0⟩
  else (x.search tie x.decimalPoint 18).trim 20

/-- The digits with a point and without an exponent. -/
def Digits.plain (d : Digits) : List Char :=
  let digits := Nat.toDigits 10 d.digits
  if 0 ≤ d.exponent then digits ++ List.replicate d.exponent.toNat '0'
  else
    let places := (-d.exponent).toNat
    let padded := List.replicate (places + 1 - digits.length) '0' ++ digits
    padded.take (padded.length - places) ++ '.' :: padded.drop (padded.length - places)

end Binary64
end ShopPayments
