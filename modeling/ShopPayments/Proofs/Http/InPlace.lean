import ShopPayments.Http.RefundApi
import ShopPayments.Proofs.Http.Endpoints

/-!
# Handlers that write in place

A handler that gives back a new state or a failure leaves the state alone when it fails, whatever
it does.  Here the handlers write to the state itself, one part after the other, and what is written
before a failure stays.  They come to the same (`run_handleInPlace`), because everything that can
fail comes before the first write.
-/

namespace ShopPayments

open Http

/-- A computation on the state of the payment service. What it writes before it fails stays. -/
abbrev Effect (ε : Type) := ExceptT ε (StateM Gateway)

namespace Effect

variable {ε α β γ : Type} {g : Gateway}

/-- The result of a computation and the state that it leaves. -/
def on (x : Effect ε α) (g : Gateway) : Except ε α × Gateway := x.run.run g

/-- A failure of the gateway turns a request down. -/
def reject (x : Effect Failure α) : Effect Rejection α := fun g ↦
  match x.on g with
  | (.ok a, after) => (.ok a, after)
  | (.error cause, after) => (.error (.failure cause), after)

/-- The outcome of a pure step on a state: a result and a new state, or a failure and the state as
it was. -/
def settled (g : Gateway) (out : γ → α × Gateway) : Except ε γ → Except ε α × Gateway
  | .ok c => (.ok (out c).1, (out c).2)
  | .error cause => (.error cause, g)

/-- A computation comes to the same as a pure step: `out` tells result and state of a success. -/
def Settles (x : Effect ε α) (g : Gateway) (out : γ → α × Gateway) (y : Except ε γ) : Prop :=
  x.on g = settled g out y

namespace Settles

variable {out : γ → β × Gateway}

theorem throw (cause : ε) : Settles (throw cause : Effect ε β) g out (.error cause) := rfl

/-- A step that may fail comes before the first write. -/
theorem read_bind {x : Except ε α} {k : α → Effect ε β} {f : α → Except ε γ}
    (h : ∀ a, (k a).Settles g out (f a)) :
    Settles ((liftM x : Effect ε α) >>= k) g out (x >>= f) := by
  cases x with
  | error cause => rfl
  | ok a => exact h a

theorem get_bind {k : Gateway → Effect ε β} {y : Except ε γ} (h : (k g).Settles g out y) :
    Settles (get >>= k) g out y := h

theorem guard {condition : Prop} [Decidable condition] {cause : ε} {k : PUnit → Effect ε β}
    {f : PUnit → Except ε γ} {x : Effect ε β} {y : Except ε γ} (h : x.Settles g out y) :
    Settles (if condition then (MonadExcept.throw cause : Effect ε PUnit) >>= k else x) g out
      (if condition then (MonadExcept.throw cause : Except ε PUnit) >>= f else y) := by
  split
  · rfl
  · exact h

theorem reject {x : Effect Failure α} {y : Except Failure (α × Gateway)} (h : x.Settles g id y) :
    x.reject.Settles g id (liftM y : Except Rejection (α × Gateway)) := by
  show x.reject g = _
  unfold Effect.reject
  rw [h]
  cases y <;> rfl

/-- What follows a call of the gateway may only fail where the call has not changed the state. -/
theorem call_bind {x : Effect ε α} {y : Except ε (α × Gateway)} {k : α → Effect ε β}
    {f : α × Gateway → Except ε γ} (h : x.Settles g id y)
    (hk : ∀ a after, y = .ok (a, after) → (k a).on after = settled g out (f (a, after))) :
    Settles (x >>= k) g out (y >>= f) := by
  have hbind : (x >>= k).on g = ExceptT.bindCont k (x.on g).1 (x.on g).2 := rfl
  unfold Settles at h ⊢
  rw [hbind, h]
  cases y with
  | error cause => rfl
  | ok result => exact hk result.1 result.2 rfl

end Settles
end Effect

open Effect

/-! ## The gateway -/

namespace Gateway

/-- Books a refund by writing the transaction, the number of the last refund and the list of
refunds, in this order. -/
def createRefundInPlace (space : UInt64) (request : RefundRequest) : Effect Failure Refund := do
  let id ← (← get).nextId
  let t ← (← get).transaction space request.transaction
  let booking ← t.book request id
  let key := (space, request.transaction)
  modify fun g ↦ { g with transactions := g.transactions.insert key booking.transaction }
  modify fun g ↦ { g with sequence := id }
  modify fun g ↦ { g with refunds := g.refunds.append key booking.refund }
  pure booking.refund

/-- Hands a request, if there is one, to the gateway. -/
def submitInPlace (space : UInt64) (request : Option RefundRequest) :
    Effect Failure (Option Refund) :=
  match request with
  | none => pure none
  | some request => do
    let refund ← createRefundInPlace space request
    pure (some refund)

/-- Refunds a plain amount. -/
def refundAmountInPlace (space : UInt64) (t : Transaction) (token : String) (amount : Amount) :
    Effect Failure (Option Refund) := do
  let request ← RefundRequest.ofAmount t token amount.value
  submitInPlace space request

/-- Refunds part of the value of a line item. -/
def refundPartInPlace (space : UInt64) (t : Transaction) (token itemId : String)
    (amount : Amount) : Effect Failure (Option Refund) := do
  let request ← RefundRequest.ofPart t token itemId amount.value
  submitInPlace space request

theorem settles_createRefundInPlace (g : Gateway) (space : UInt64) (request : RefundRequest) :
    (createRefundInPlace space request).Settles g id (g.createRefund space request) := by
  apply Settles.get_bind
  apply Settles.read_bind
  intro id
  apply Settles.get_bind
  apply Settles.read_bind
  intro t
  apply Settles.read_bind
  intro booking
  rfl

theorem settles_submitInPlace (g : Gateway) (space : UInt64) (request : Option RefundRequest) :
    (submitInPlace space request).Settles g id (g.submit space request) := by
  cases request with
  | none => rfl
  | some request =>
    apply (settles_createRefundInPlace g space request).call_bind
    intro refund after _
    rfl

end Gateway

/-! ## The handlers -/

namespace Http

open Gateway

/-- Refunds units of a line item. -/
def UnitsBody.runInPlace (b : UnitsBody) (file : SettingsFile) (token : String) :
    Effect Rejection Unit := do
  if b.quantity ≤ 0 then throw (.key "refundQuantityZero")
  let (space, t) ← load file (← get) b.channel b.transaction
  let request ← b.decide t ((← get).refundsOf space t.id) token
  let _ ← (createRefundInPlace space request).reject

/-- Refunds a plain amount. -/
def AmountBody.runInPlace (b : AmountBody) (file : SettingsFile) (token : String) :
    Effect Rejection Unit := do
  match b.amount.bind fun d ↦ (Amount.ofDecimal d).toOption with
  | none => throw (.key "refundAmountZero")
  | some amount =>
    let (space, t) ← load file (← get) b.channel b.transaction
    let most ← Failure.ofOverflow t.refundableAmount
    if most < amount.value then throw (.key "refundExceedsAmount")
    match ← (refundAmountInPlace space t token amount).reject with
    | some _ => pure ()
    | none => throw (.key "refundExceedsAmount")

/-- Refunds part of the value of a line item. -/
def PartBody.runInPlace (b : PartBody) (file : SettingsFile) (token : String) :
    Effect Rejection Unit := do
  match Amount.ofDecimal b.amount with
  | .error _ => throw (.key "refundAmountZero")
  | .ok amount =>
    let (space, t) ← load file (← get) b.channel b.transaction
    let _ ← (refundPartInPlace space t token b.item amount).reject

theorem UnitsBody.settles_runInPlace (b : UnitsBody) (file : SettingsFile) (g : Gateway)
    (token : String) : (b.runInPlace file token).Settles g ((), ·) (b.run file g token) := by
  apply Settles.guard
  apply Settles.get_bind
  apply Settles.read_bind
  rintro ⟨space, t⟩
  apply Settles.get_bind
  apply Settles.read_bind
  intro request
  apply (settles_createRefundInPlace g space request).reject.call_bind
  intro refund after _
  rfl

theorem AmountBody.settles_runInPlace (b : AmountBody) (file : SettingsFile) (g : Gateway)
    (token : String) : (b.runInPlace file token).Settles g ((), ·) (b.run file g token) := by
  unfold runInPlace run
  cases b.amount.bind fun d ↦ (Amount.ofDecimal d).toOption with
  | none => exact .throw _
  | some amount =>
    apply Settles.get_bind
    apply Settles.read_bind
    rintro ⟨space, t⟩
    apply Settles.read_bind
    intro most
    apply Settles.guard
    have hsettles : (refundAmountInPlace space t token amount).Settles g id
        (g.refundAmount space t token amount) := .read_bind (settles_submitInPlace g space)
    apply hsettles.reject.call_bind
    intro refund after hresult
    cases refund with
    | some refund => rfl
    | none =>
      -- Without a request the state is the one before.
      obtain ⟨request, -, hsubmit⟩ := bind_eq_ok.mp (liftFailure_eq_ok.mp hresult)
      rcases submit_eq_ok hsubmit with ⟨-, -, rfl⟩ | ⟨_, _, -, hnone, -⟩
      · rfl
      · cases hnone

theorem PartBody.settles_runInPlace (b : PartBody) (file : SettingsFile) (g : Gateway)
    (token : String) : (b.runInPlace file token).Settles g ((), ·) (b.run file g token) := by
  unfold runInPlace run
  cases Amount.ofDecimal b.amount with
  | error _ => exact .throw _
  | ok amount =>
    apply Settles.get_bind
    apply Settles.read_bind
    rintro ⟨space, t⟩
    have hsettles : (refundPartInPlace space t token b.item amount).Settles g id
        (g.refundPart space t token b.item amount) := .read_bind (settles_submitInPlace g space)
    apply hsettles.reject.call_bind
    intro refund after _
    rfl

/-! ## Requests -/

/-- Reads a body and runs its handler on the state. -/
def answerInPlace {Body : Type} [Decode Body] (run : Body → Effect Rejection Unit)
    (body : String) : StateM Gateway Reply :=
  match (Json.parse body : Except Misread Body) with
  | .error .notJson => pure (.response ⟨400, none⟩)
  | .error .misfit => pure (.response ⟨422, none⟩)
  | .ok b => do
    match ← (run b).run with
    | .ok () => pure (.response ⟨204, some ""⟩)
    | .error rejection => pure rejection.reply

/-- Answers a request to an endpoint on the state. -/
def Endpoint.answerInPlace (e : Endpoint) (file : SettingsFile) (token body : String) :
    StateM Gateway Reply :=
  match e with
  | .units => Http.answerInPlace (fun (b : UnitsBody) ↦ b.runInPlace file token) body
  | .amount => Http.answerInPlace (fun (b : AmountBody) ↦ b.runInPlace file token) body
  | .part => Http.answerInPlace (fun (b : PartBody) ↦ b.runInPlace file token) body

/-- Answers a request on the state. -/
def handleInPlace (file : SettingsFile) (token : String) (r : Request) : StateM Gateway Reply :=
  match Endpoint.at? (pathOf r.path) with
  | none => pure (.response ⟨404, some ""⟩)
  | some endpoint =>
    if r.method != "POST" then pure (.response ⟨405, some ""⟩)
    else if !r.isJson then pure (.response ⟨415, none⟩)
    else endpoint.answerInPlace file token r.body

theorem run_answerInPlace {Body : Type} [Decode Body] {runInPlace : Body → Effect Rejection Unit}
    {run : Body → Except Rejection Gateway} {g : Gateway}
    (h : ∀ b, (runInPlace b).Settles g ((), ·) (run b)) (body : String) :
    (answerInPlace runInPlace body).run g = answer run g body := by
  unfold answerInPlace answer
  cases (Json.parse body : Except Misread Body) with
  | error misread => cases misread <;> rfl
  | ok b =>
    have hrun : (runInPlace b).run.run g = settled g ((), ·) (run b) := h b
    dsimp only
    rw [StateT.run_bind, hrun]
    cases run b <;> rfl

/-- **Writing in place comes to the same: no handler fails after its first write.** -/
theorem run_handleInPlace (file : SettingsFile) (g : Gateway) (token : String) (r : Request) :
    (handleInPlace file token r).run g = handle file g token r := by
  unfold handleInPlace handle
  cases Endpoint.at? (pathOf r.path) with
  | none => rfl
  | some endpoint =>
    dsimp only
    split
    · rfl
    split
    · rfl
    cases endpoint with
    | units => exact run_answerInPlace (UnitsBody.settles_runInPlace · file g token) r.body
    | amount => exact run_answerInPlace (AmountBody.settles_runInPlace · file g token) r.body
    | part => exact run_answerInPlace (PartBody.settles_runInPlace · file g token) r.body

end Http
end ShopPayments
