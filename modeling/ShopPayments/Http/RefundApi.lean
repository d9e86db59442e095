import ShopPayments.Http.Message
import ShopPayments.Json.Shape
import ShopPayments.Refund.Limits
import ShopPayments.Refund.Submission
import ShopPayments.Settings

/-!
# The refund endpoints

Three endpoints refund units of a line item, a plain amount, or part of a line
item. Each one checks what was asked for, resolves the space of the sales
channel, reads the transaction and submits a refund. A request that is turned
down leaves the gateway as it was.
-/

namespace ShopPayments
namespace Http

open Shape (required defaulted)

/-- Asks for units of a line item. -/
structure UnitsBody where
  channel : Option String
  transaction : UInt64
  quantity : Int64
  item : String

instance : Decode UnitsBody where
  decode := Shape.run <|
    UnitsBody.mk <$> defaulted "salesChannelId" none <*> required "transactionId"
      <*> defaulted "quantity" 0 <*> required "lineItemId"

/-- Asks for a plain amount. -/
structure AmountBody where
  channel : Option String
  transaction : UInt64
  amount : Option Decimal

instance : Decode AmountBody where
  decode := Shape.run <|
    AmountBody.mk <$> defaulted "salesChannelId" none <*> required "transactionId"
      <*> defaulted "refundableAmount" none

/-- Asks for part of the value of a line item. -/
structure PartBody where
  channel : Option String
  transaction : UInt64
  amount : Decimal
  item : String

instance : Decode PartBody where
  decode := Shape.run <|
    PartBody.mk <$> defaulted "salesChannelId" none <*> required "transactionId"
      <*> required "refundableAmount" <*> required "lineItemId"

/-- The space of a sales channel, and a transaction in it. -/
def load (file : SettingsFile) (g : Gateway) (channel : Option String) (id : UInt64) :
    Except Failure (UInt64 × Transaction) := do
  let settings ← file.resolve channel
  let t ← g.transaction settings.spaceId id
  pure (settings.spaceId, t)

/-- The answer where no refund could be made of the units asked for. -/
def notCreated : String :=
  "Refund was not created. Please check the refund amound or if the item was not refunded before"

namespace UnitsBody

/-- The request to make of the units asked for, given the recorded refunds. -/
def decide (b : UnitsBody) (t : Transaction) (refunds : List Refund) (token : String) :
    Except Rejection RefundRequest := do
  let most ← Failure.ofOverflow (t.refundableUnits refunds b.item)
  if (most.toNat : Int) < b.quantity.toInt then throw (.key "refundExceedsQuantity")
  match ← RefundRequest.ofUnits t token b.item (UInt32.ofNat b.quantity.toInt.toNat) with
  | some request => pure request
  | none => throw (.key notCreated)

/-- Refunds units of a line item. -/
def run (b : UnitsBody) (file : SettingsFile) (g : Gateway) (token : String) :
    Except Rejection Gateway := do
  if b.quantity ≤ 0 then throw (.key "refundQuantityZero")
  let (space, t) ← load file g b.channel b.transaction
  let request ← b.decide t (g.refundsOf space t.id) token
  let (_, after) ← g.createRefund space request
  pure after

end UnitsBody

namespace AmountBody

/-- Refunds a plain amount. -/
def run (b : AmountBody) (file : SettingsFile) (g : Gateway) (token : String) :
    Except Rejection Gateway := do
  match b.amount.bind fun d => (Amount.ofDecimal d).toOption with
  | none => throw (.key "refundAmountZero")
  | some amount =>
    let (space, t) ← load file g b.channel b.transaction
    let most ← Failure.ofOverflow t.refundableAmount
    if most < amount.value then throw (.key "refundExceedsAmount")
    match ← g.refundAmount space t token amount with
    | (some _, after) => pure after
    | (none, _) => throw (.key "refundExceedsAmount")

end AmountBody

namespace PartBody

/-- Refunds part of the value of a line item. Where nothing can be refunded, nothing happens. -/
def run (b : PartBody) (file : SettingsFile) (g : Gateway) (token : String) :
    Except Rejection Gateway := do
  match Amount.ofDecimal b.amount with
  | .error _ => throw (.key "refundAmountZero")
  | .ok amount =>
    let (space, t) ← load file g b.channel b.transaction
    let (_, after) ← g.refundPart space t token b.item amount
    pure after

end PartBody

/-- The endpoints. -/
inductive Endpoint where
  | units
  | amount
  | part
  deriving DecidableEq, Repr

/-- What all paths of the endpoints start with. -/
def basePath : String := "/api/_action/weareplanet/refund/"

/-- The path of a target without query and fragment. -/
def pathOf (target : String) : String :=
  String.ofList (target.toList.takeWhile fun c => c != '?' && c != '#')

/-- The endpoint at a path. -/
def Endpoint.at? (path : String) : Option Endpoint :=
  if path = basePath ++ "create-refund/" then some .units
  else if path = basePath ++ "create-refund-by-amount/" then some .amount
  else if path = basePath ++ "create-partial-refund/" then some .part
  else none

/-- Reads a body and runs its handler. -/
def answer {Body : Type} [Decode Body] (run : Body → Except Rejection Gateway) (g : Gateway)
    (body : String) : Reply × Gateway :=
  match (Json.parse body : Except Misread Body) with
  | .error .notJson => (.response ⟨400, none⟩, g)
  | .error .misfit => (.response ⟨422, none⟩, g)
  | .ok b =>
    match run b with
    | .ok after => (.response ⟨204, some ""⟩, after)
    | .error rejection => (rejection.reply, g)

/-- Answers a request to an endpoint. -/
def Endpoint.answer (e : Endpoint) (file : SettingsFile) (g : Gateway) (token body : String) :
    Reply × Gateway :=
  match e with
  | .units => Http.answer (fun (b : UnitsBody) => b.run file g token) g body
  | .amount => Http.answer (fun (b : AmountBody) => b.run file g token) g body
  | .part => Http.answer (fun (b : PartBody) => b.run file g token) g body

/-- Whether the body of a request is said to be JSON. -/
def Request.isJson (r : Request) : Bool :=
  match r.contentType.bind MediaType.parse? with
  | some m => m.isJson
  | none => false

/-- Answers a request; the token is that of the refund it may create. -/
def handle (file : SettingsFile) (g : Gateway) (token : String) (r : Request) :
    Reply × Gateway :=
  match Endpoint.at? (pathOf r.path) with
  | none => (.response ⟨404, some ""⟩, g)
  | some endpoint =>
    if r.method != "POST" then (.response ⟨405, some ""⟩, g)
    else if !r.isJson then (.response ⟨415, none⟩, g)
    else endpoint.answer file g token r.body

end Http
end ShopPayments
