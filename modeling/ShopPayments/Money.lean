import ShopPayments.Failure

/-!
# Money

Monetary values have two places at the end of every calculation; a half cent is
rounded away from zero. Amounts that a client asks for have to be positive.
-/

namespace ShopPayments
namespace Money

/-- Places of monetary values. -/
def places : Nat := 2

/-- Rounds to cents. -/
def round (amount : Decimal) : Decimal := amount.roundTo places

/-- A rate as it is written in titles: without zeros at the end of its fraction. -/
def rateText (rate : Decimal) : String := rate.normalize.text

end Money

/-- A positive amount of money. -/
structure Amount where
  value : Decimal
  positive : 0 < value

/-- The amount of a decimal, which has to be positive. -/
def Amount.ofDecimal (d : Decimal) : Except Failure Amount :=
  if h : 0 < d then .ok ⟨d, h⟩ else .error .amountNotPositive

end ShopPayments
