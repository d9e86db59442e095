import ShopPayments.Gateway
import ShopPayments.Refund.Builder

/-!
# Submitting refunds

A request is built from a transaction as it was read, possibly some time ago, and
handed to the gateway, which looks at its own copy. Without a request nothing
happens.
-/

namespace ShopPayments
namespace Gateway

/-- Hands a request, if there is one, to the gateway. -/
def submit (g : Gateway) (space : UInt64) (request : Option RefundRequest) :
    Except Failure (Option Refund × Gateway) :=
  match request with
  | none => .ok (none, g)
  | some request => do
    let (refund, after) ← g.createRefund space request
    pure (some refund, after)

/-- Refunds units of a line item. -/
def refundUnits (g : Gateway) (space : UInt64) (t : Transaction) (token itemId : String)
    (units : UInt32) : Except Failure (Option Refund × Gateway) := do
  let request ← RefundRequest.ofUnits t token itemId units
  g.submit space request

/-- Refunds a plain amount. -/
def refundAmount (g : Gateway) (space : UInt64) (t : Transaction) (token : String)
    (amount : Amount) : Except Failure (Option Refund × Gateway) := do
  let request ← RefundRequest.ofAmount t token amount.value
  g.submit space request

/-- Refunds part of the value of a line item. -/
def refundPart (g : Gateway) (space : UInt64) (t : Transaction) (token itemId : String)
    (amount : Amount) : Except Failure (Option Refund × Gateway) := do
  let request ← RefundRequest.ofPart t token itemId amount.value
  g.submit space request

end Gateway
end ShopPayments
