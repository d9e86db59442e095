import ShopPayments.Decimal.Arithmetic

/-!
# Decimal text

Writing is plain: an optional minus, the integer digits, and after a point as
many digits as the decimal has places. Reading accepts more: a plus, a missing
integer or fraction part, underscores between digits, and an exponent of at most
28. The first fraction digit without room rounds those before it, a half going
away from zero, and only digits and underscores may follow it.
-/

namespace ShopPayments
namespace Decimal

/-- The digits of a magnitude, filled up with zeros in front. -/
def paddedDigits (magnitude width : Nat) : List Char :=
  let digits := Nat.toDigits 10 magnitude
  List.replicate (width - digits.length) '0' ++ digits

/-- The plain text with all places. -/
def text (d : Decimal) : String :=
  let digits := paddedDigits d.magnitude (d.scale + 1)
  let whole := digits.take (digits.length - d.scale)
  let fraction := digits.drop (digits.length - d.scale)
  let unsigned := if d.scale = 0 then whole else whole ++ '.' :: fraction
  String.ofList (if d.negative then '-' :: unsigned else unsigned)

instance : ToString Decimal := ⟨text⟩

/-- The value of a digit. -/
def digitValue (c : Char) : Nat := c.toNat - '0'.toNat

/-- What has been read of a plain text. -/
structure Reading where
  negative : Bool
  magnitude : Nat
  scale : Nat
  pastPoint : Bool
  hasDigits : Bool

namespace Reading

/-- Nothing read yet but the sign. -/
def start (negative : Bool) : Reading := ⟨negative, 0, 0, false, false⟩

/-- The decimal read so far, if there was any digit. -/
def finish (r : Reading) : Option Decimal :=
  if r.hasDigits then signed? r.negative r.magnitude r.scale else none

/-- Takes in a digit for which there is room. -/
def push (r : Reading) (digit : Nat) : Reading :=
  { r with
    magnitude := 10 * r.magnitude + digit
    scale := if r.pastPoint then r.scale + 1 else r.scale
    hasDigits := true }

/-- Ends the reading at a digit that has no room. A magnitude that is rounded up past the
bound gives one place back. -/
def roundBy (r : Reading) (digit : Nat) : Option Decimal :=
  if digit < 5 then r.finish
  else if r.magnitude + 1 < magnitudeBound then finish { r with magnitude := r.magnitude + 1 }
  else
    match r.scale with
    | 0 => none
    | fewer + 1 => finish { r with magnitude := (r.magnitude + 5) / 10, scale := fewer }

/-- Whether a text may go on like this behind the digit that rounded. -/
def isTail (cs : List Char) : Bool := cs.all fun c => c.isDigit || c = '_'

/-- A full reading whose magnitude, without the last digit, is below this takes an underscore
for a zero that rounds; a longer one looks for the next digit. -/
def shortBound : Nat := 1844674407370954906

/-- Whether a full reading takes an underscore for a zero. -/
def isShort (r : Reading) : Bool := r.magnitude / 10 < shortBound

/-- Reads what follows the last place. -/
def runFull (r : Reading) : List Char → Option Decimal
  | [] => r.finish
  | c :: rest =>
    if c.isDigit then if isTail rest then r.roundBy (digitValue c) else none
    else if c = '_' then
      if r.isShort then if isTail rest then r.finish else none else runFull r rest
    else none

/-- Reads the characters that follow. -/
def run (r : Reading) : List Char → Option Decimal
  | [] => r.finish
  | c :: rest =>
    if r.scale = maxScale then r.runFull (c :: rest)
    else if c.isDigit then
      let longer := r.push (digitValue c)
      if longer.magnitude < magnitudeBound then run longer rest
      else if r.pastPoint && isTail rest then r.roundBy (digitValue c)
      else none
    else if c = '.' && !r.pastPoint then run { r with pastPoint := true } rest
    else if c = '_' && r.hasDigits then run r rest
    else none

end Reading

/-- Reads a plain text. -/
def ofPlain? (cs : List Char) : Option Decimal :=
  match cs with
  | '-' :: rest => (Reading.start true).run rest
  | '+' :: rest => (Reading.start false).run rest
  | _ => (Reading.start false).run cs

/-- The value of a nonempty run of digits. -/
def digitsValue? (cs : List Char) : Option Nat :=
  if cs.isEmpty || !cs.all Char.isDigit then none
  else some (cs.foldl (fun n c => 10 * n + digitValue c) 0)

/-- An unsigned exponent, optionally after a plus. -/
def exponent? (cs : List Char) : Option Nat :=
  match cs with
  | '+' :: rest => digitsValue? rest
  | _ => digitsValue? cs

/-- The decimal with its point moved to the left. What has no place any more is rounded off. -/
def shiftLeft? (d : Decimal) (exponent : Nat) : Option Decimal :=
  if h : exponent ≤ maxScale then
    let kept := Nat.min d.scale (maxScale - exponent)
    let shortened := d.shorten kept (Nat.le_trans (Nat.min_le_left _ _) d.scale_le)
    some (shortened.withScale (kept + exponent)
      (Nat.add_le_of_le_sub h (Nat.min_le_right _ _)))
  else none

/-- A power of ten as a factor. -/
def tenPower? (exponent : Nat) : Option Decimal := signed? false (tenPow exponent) 0

/-- The largest power of ten that is multiplied at a time. -/
def powerStep : Nat := 19

/-- The decimal with its point moved to the right: by giving places up if there are enough,
else by multiplying, in steps, without zeros at the end of the fraction. -/
def shiftRight? (d : Decimal) (exponent : Nat) : Option Decimal :=
  if exponent ≤ d.scale then
    some (d.withScale (d.scale - exponent) (Nat.le_trans (Nat.sub_le _ _) d.scale_le))
  else if maxScale < exponent then none
  else do
    let first ← (d.mul (← tenPower? (Nat.min exponent powerStep))).toOption
    let full ← (first.mul (← tenPower? (exponent - powerStep))).toOption
    pure full.normalize

/-- Reads a plain text followed by a marked exponent. -/
def ofScientific? (cs : List Char) : Option Decimal :=
  let isMark := fun c => c = 'e' || c = 'E'
  match cs.dropWhile (!isMark ·) with
  | [] => none
  | _ :: exponent => do
    let d ← ofPlain? (cs.takeWhile (!isMark ·))
    match exponent with
    | '-' :: digits => shiftLeft? d (← exponent? digits)
    | digits => shiftRight? d (← exponent? digits)

/-- Reads a decimal: plain, or else with an exponent. -/
def ofText? (s : String) : Option Decimal :=
  ofPlain? s.toList <|> ofScientific? s.toList

end Decimal
end ShopPayments
