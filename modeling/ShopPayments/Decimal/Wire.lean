import ShopPayments.Binary64.Shortest
import ShopPayments.Decimal.Text

/-!
# Decimals as binary64 numbers

On the wire a decimal is a binary64 number. Whole numbers go to the nearest one;
a decimal with a fraction takes its integer part and its fraction apart, adds
them up in binary64 and rounds the sum to its places. A number from the wire is
read through its shortest digits, so that `1.005` is exactly `1.005`.
-/

namespace ShopPayments
namespace Decimal

/-- The magnitude rounded in binary64 to the given places. -/
def roundedAt (x : Binary64) (places : Nat) : Binary64 :=
  let power := Binary64.pow (Binary64.ofNat 10) places
  (x.mul power).round.div power

/-- The binary64 magnitude that stands for the decimal on the wire. -/
def toBinary64 (d : Decimal) : Binary64 :=
  let magnitude := d.magnitude
  if d.scale = 0 then Binary64.ofNat magnitude
  else
    let power := tenPow d.scale
    let whole := Binary64.ofNat (magnitude / power)
    let fraction := (Binary64.ofNat (magnitude % power)).div (Binary64.ofNat power)
    if fraction.mantissa = 0 then whole else roundedAt (whole.add fraction) d.scale

/-- The decimal that the shortest digits of a binary64 number write out. -/
def ofBinary64? (negative : Bool) (x : Binary64) : Option Decimal :=
  let digits := (x.shortest .away).plain
  ofPlain? (if negative then '-' :: digits else digits)

/-- The decimal of a whole number, where it has room. -/
def ofInt? (n : Int) : Option Decimal := signed? (n < 0) n.natAbs 0

end Decimal
end ShopPayments
