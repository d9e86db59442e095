import ShopPayments.Json

/-!
# Numbers in JSON text

A number without fraction and exponent stays an integer while it fits 64 bits.
All others become binary64 numbers in two roundings: the leading digits are taken
into a significand of 64 bits, which is then multiplied or divided by a power of
ten (`Binary64.scaled?`). So a number may come out next to the nearest one.
-/

namespace ShopPayments
namespace Json

/-- A number with one more digit behind it. -/
def appendDigit (n : Nat) (c : Char) : Nat := 10 * n + (c.toNat - '0'.toNat)

/-- The value of a run of digits. -/
def digitsValue (digits : List Char) : Nat := digits.foldl appendDigit 0

/-- The parts of a number as written. -/
structure Numeral where
  negative : Bool
  whole : List Char
  fraction : Option (List Char)
  exponent : Option Int

/-- Splits leading digits off. -/
def spanDigits (cs : List Char) : List Char × List Char :=
  (cs.takeWhile Char.isDigit, cs.dropWhile Char.isDigit)

/-- Reads the digits after a point, of which there must be one. -/
def fractionPart? (cs : List Char) : Option (Option (List Char) × List Char) :=
  match cs with
  | '.' :: rest =>
    let (digits, rest) := spanDigits rest
    if digits.isEmpty then none else some (some digits, rest)
  | _ => some (none, cs)

/-- Reads a marked exponent with an optional sign, of which there must be a digit. -/
def exponentPart? (cs : List Char) : Option (Option Int × List Char) :=
  let unsigned := fun (sign : Int) (cs : List Char) =>
    let (digits, rest) := spanDigits cs
    if digits.isEmpty then none else some (some (sign * digitsValue digits), rest)
  let signed := fun (cs : List Char) =>
    match cs with
    | '-' :: rest => unsigned (-1) rest
    | '+' :: rest => unsigned 1 rest
    | _ => unsigned 1 cs
  match cs with
  | 'e' :: rest => signed rest
  | 'E' :: rest => signed rest
  | _ => some (none, cs)

/-- Reads a number whose sign has been read. A leading zero stands alone. -/
def numeral? (negative : Bool) (cs : List Char) : Option (Numeral × List Char) := do
  let (whole, rest) := spanDigits cs
  if whole.isEmpty || (whole.head? = some '0' && 1 < whole.length) then none
  else
    let (fraction, rest) ← fractionPart? rest
    let (exponent, rest) ← exponentPart? rest
    pure (⟨negative, whole, fraction, exponent⟩, rest)

/-- A significand of 64 bits, with the count of the digits put into it and of those that
stayed out. -/
structure Significand where
  value : Nat
  taken : Nat
  left : Nat

/-- Puts digits behind a significand as long as it fits 64 bits. -/
def takeDigits (significand : Nat) : List Char → Significand
  | [] => ⟨significand, 0, 0⟩
  | c :: rest =>
    let longer := appendDigit significand c
    if longer < UInt64.size then
      let s := takeDigits longer rest
      ⟨s.value, s.taken + 1, s.left⟩
    else ⟨significand, 0, rest.length + 1⟩

/-- The number with a fraction or an exponent; unreadable beyond the range of binary64. Digits
of the whole part that stay out of the significand count as zeros, those of the fraction not
at all. -/
def Numeral.real (n : Numeral) : Draft :=
  let whole := takeDigits 0 n.whole
  let all := takeDigits whole.value (n.fraction.getD [])
  match Binary64.scaled? all.value (n.exponent.getD 0 + whole.left - all.taken) with
  | some magnitude => .real n.negative magnitude
  | none => .hole .unreadable

/-- The value of a number. A whole number keeps to 64 bits, and zero keeps its minus. -/
def Numeral.value (n : Numeral) : Draft :=
  match n.fraction, n.exponent with
  | none, none =>
    let magnitude := digitsValue n.whole
    if n.negative then
      if magnitude = 0 || -magnitude < Int64.minValue.toInt then n.real else .integer (-magnitude)
    else if magnitude < UInt64.size then .integer magnitude
    else n.real
  | _, _ => n.real

end Json
end ShopPayments
