import ShopPayments.Money
import ShopPayments.Transaction

/-!
# Building refund requests

Three ways to ask for a refund: units of a line item, a plain amount, and part of
the value of a line item, which becomes a cut of its unit price. Each gives no
request when the transaction cannot be refunded by that much, and fails when the
request makes no sense at all.
-/

namespace ShopPayments
namespace RefundRequest

/-- The id a request is known by outside, made of a random token. -/
def externalIdFor (token : String) : String := Text.cut ("refund_" ++ token) 100

/-- Whether a transaction can be refunded by an amount under a ceiling. -/
def isRefundable (t : Transaction) (amount ceiling : Decimal) : Bool :=
  t.state = .fulfill && amount ≤ ceiling

/-- The request to refund a transaction, if the payment service would take it. -/
def forTransaction (t : Transaction) (token : String) (amount : Option Decimal)
    (reductions : List Reduction) : Except Failure RefundRequest :=
  ensureValid
    { amount
      externalId := externalIdFor token
      merchantReference := t.merchantReference.map (Text.cut · 100)
      reductions
      transaction := t.id
      type := .merchantOnline }

/-- Asks for units of a line item; no units mean the whole line item. -/
def ofUnits (t : Transaction) (token : String) (itemId : String) (units : UInt32) :
    Except Failure (Option RefundRequest) := do
  let item ← t.item itemId
  let whole := units = 0
  let given := if whole then item.quantity else units
  let amount ← (Decimal.ofUInt32 given).mul item.unitPrice
  if isRefundable t amount t.authorized then
    let reduction := ⟨item.uniqueId, given, if whole then item.unitPrice else 0⟩
    let request ← forTransaction t token none [reduction]
    pure (some request)
  else pure none

/-- Asks for a plain amount. -/
def ofAmount (t : Transaction) (token : String) (amount : Decimal) :
    Except Failure (Option RefundRequest) :=
  if isRefundable t amount t.authorized then do
    let request ← forTransaction t token (some (Money.round amount)) []
    pure (some request)
  else pure none

theorem units_pos {units : UInt32} (h : units ≠ 0) : 0 < units.toNat :=
  Nat.pos_of_ne_zero fun hz => h (UInt32.toNat_inj.mp hz)

/-- Asks for part of the value of a line item. -/
def ofPart (t : Transaction) (token : String) (itemId : String) (amount : Decimal) :
    Except Failure (Option RefundRequest) := do
  let item ← t.item itemId
  if h : item.quantity = 0 then pure none
  else
    let value ← item.unitPrice.mul (Decimal.ofUInt32 item.quantity)
    if isRefundable t amount value then
      let reduction := ⟨itemId, 0, amount.divCount item.quantity.toNat (units_pos h)⟩
      let request ← forTransaction t token none [reduction]
      pure (some request)
    else pure none

end RefundRequest
end ShopPayments
