import ShopPayments.Payload.Preparation
import ShopPayments.PaymentMethod

/-!
# Confirming a checkout

The settings of the sales channel and the stored payment method are looked up,
and the update of the pending transaction is built from them.
-/

namespace ShopPayments

/-- The update of the transaction of a checkout. -/
def Checkout.prepare (c : Checkout) (file : SettingsFile) (store : MethodStore) :
    Except Failure Payload := do
  let settings ← file.resolve (some c.context.salesChannel)
  let stored ← store.active c.context.paymentMethod
  let sale : Sale := ⟨c.order, c.context, settings, file.labels⟩
  sale.payload c.customer c.pending stored.method

end ShopPayments
