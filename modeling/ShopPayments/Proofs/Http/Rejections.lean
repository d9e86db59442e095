import ShopPayments.Proofs.Http.Endpoints

/-!
# What handlers turn requests down for

A handler ends with a text, with a failure to find what the request names, with a request to the
payment service that is not valid, with arithmetic that has no room, or with what the gateway turns
down.  Most of these say nothing about amounts.  So a property of rejections that holds of them
(`Rejection.Covers`) holds of all rejections of a handler if it holds where the arithmetic of the
handler has no room and where the gateway turns down what the endpoint asks of it.
-/

namespace ShopPayments
namespace Http

/-- The property holds of a request that is turned down for what it says or names. -/
structure Rejection.Covers (P : Rejection → Prop) : Prop where
  key : ∀ text, P (.key text)
  notConfigured : ∀ setting, P (.failure (.notConfigured setting))
  unknownTransaction : ∀ id, P (.failure (.unknownTransaction id))
  unknownItem : ∀ id, P (.failure (.unknownItem id))
  invalid : ∀ entity violations, P (.failure (.invalid entity violations))

namespace Rejection.Covers

variable {P : Rejection → Prop} {file : SettingsFile} {g : Gateway} {t : Transaction}
  {token itemId : String}

theorem ensureValid {α : Type} [Validated α] (hP : Covers P) (a : α) :
    FailsOnly (fun cause ↦ P (.failure cause)) (ensureValid a) := by
  refine (failsOnly_invalid_ensureValid a).imp ?_
  rintro cause ⟨entity, violations, rfl⟩
  exact hP.invalid entity violations

theorem load (hP : Covers P) (file : SettingsFile) (g : Gateway) (channel : Option String)
    (id : UInt64) : FailsOnly (fun cause ↦ P (.failure cause)) (load file g channel id) := by
  have hsettings : FailsOnly (fun cause ↦ P (.failure cause)) (file.resolve channel) := by
    unfold SettingsFile.resolve SettingsValues.settings
    intro cause hcause
    split at hcause <;> cases hcause
    all_goals exact hP.notConfigured _
  refine hsettings.bind fun settings _ ↦ FailsOnly.bind ?_ fun t _ ↦ .ok _
  unfold Gateway.transaction
  split
  · exact .ok _
  · exact .error (hP.unknownTransaction id)

theorem item (hP : Covers P) (t : Transaction) (itemId : String) :
    FailsOnly (fun cause ↦ P (.failure cause)) (t.item itemId) := by
  unfold Transaction.item
  split
  · exact .ok _
  · exact .error (hP.unknownItem itemId)

/-! ## Building requests -/

theorem refundable (hP : Covers P) {amount ceiling : Decimal} {plain : Option Decimal}
    {reductions : List Reduction} :
    FailsOnly (fun cause ↦ P (.failure cause))
      (if RefundRequest.isRefundable t amount ceiling then do
        let request ← RefundRequest.forTransaction t token plain reductions
        pure (some request)
      else pure none) := by
  split
  · exact (hP.ensureValid _).bind fun request _ ↦ .ok _
  · exact .ok _

theorem ofUnits (hP : Covers P) {units : UInt32}
    (hpriced : ∀ item, t.item? itemId = some item →
      FailsOnly (fun operation ↦ P (.failure (.overflow operation)))
        ((Decimal.ofUInt32 (RefundRequest.unitsReduction item units).units).mul item.unitPrice)) :
    FailsOnly (fun cause ↦ P (.failure cause)) (RefundRequest.ofUnits t token itemId units) := by
  refine (hP.item t itemId).bind fun item hitem ↦ ?_
  have hunits : (if (units = 0 : Prop) then item.quantity else units) =
      (RefundRequest.unitsReduction item units).units := by
    unfold RefundRequest.unitsReduction
    split <;> rfl
  dsimp only
  rw [hunits]
  refine FailsOnly.bind (.liftOverflow (hpriced item (Transaction.item_eq_ok.mp hitem))) ?_
  exact fun amount _ ↦ hP.refundable

theorem ofAmount (hP : Covers P) {amount : Decimal} :
    FailsOnly (fun cause ↦ P (.failure cause)) (RefundRequest.ofAmount t token amount) :=
  hP.refundable

theorem ofPart (hP : Covers P) {amount : Decimal}
    (hpriced : ∀ item, t.item? itemId = some item →
      FailsOnly (fun operation ↦ P (.failure (.overflow operation)))
        (item.unitPrice.mul (.ofUInt32 item.quantity))) :
    FailsOnly (fun cause ↦ P (.failure cause)) (RefundRequest.ofPart t token itemId amount) := by
  refine (hP.item t itemId).bind fun item hitem ↦ ?_
  split
  · exact .ok _
  · refine FailsOnly.bind (.liftOverflow (hpriced item (Transaction.item_eq_ok.mp hitem))) ?_
    exact fun value _ ↦ hP.refundable

end Rejection.Covers

/-! ## Booking -/

/-- A call fails for want of a number or of a transaction, or because the transaction cannot be
refunded like this. -/
theorem failsOnly_createRefund {P : Failure → Prop} {g : Gateway} {space : UInt64}
    {request : RefundRequest} (hnext : FailsOnly P g.nextId)
    (hunknown : P (.unknownTransaction request.transaction))
    (hbook : ∀ t, g.transaction? space request.transaction = some t → ∀ id,
      FailsOnly P (t.book request id)) : FailsOnly P (g.createRefund space request) := by
  unfold Gateway.createRefund
  refine hnext.bind fun id _ ↦ FailsOnly.bind ?_ fun t ht ↦ ?_
  · unfold Gateway.transaction
    split
    · exact .ok _
    · exact .error hunknown
  · exact (hbook t (Gateway.transaction_eq_ok.mp ht) id).bind fun booking _ ↦ .ok _

/-! ## Handlers -/

section Run

variable {P : Rejection → Prop} {file : SettingsFile} {g : Gateway} {token : String}

theorem failsOnly_ofOverflow {α : Type} {x : Except Overflow α}
    (h : FailsOnly (fun operation ↦ P (.failure (.overflow operation))) x) :
    FailsOnly P (liftM (Failure.ofOverflow x) : Except Rejection α) :=
  .liftFailure (.liftOverflow h)

theorem UnitsBody.failsOnly_run {b : UnitsBody} (hP : Rejection.Covers P)
    (hleft : ∀ space t, g.transaction? space b.transaction = some t →
      FailsOnly (fun operation ↦ P (.failure (.overflow operation)))
        (t.refundableUnits (g.refundsOf space t.id) b.item))
    (hpriced : ∀ space t item, ∀ units : UInt32, g.transaction? space b.transaction = some t →
      t.item? b.item = some item → FailsOnly (fun operation ↦ P (.failure (.overflow operation)))
        ((Decimal.ofUInt32 units).mul item.unitPrice))
    (hcreate : ∀ space t request, g.transaction? space b.transaction = some t →
      Endpoint.units.Asks t (g.refundsOf space t.id) request →
        FailsOnly (fun cause ↦ P (.failure cause)) (g.createRefund space request)) :
    FailsOnly P (b.run file g token) := by
  unfold UnitsBody.run
  refine .guard (hP.key _) fun hquantity ↦ ?_
  refine FailsOnly.bind (.liftFailure (hP.load file g b.channel b.transaction)) ?_
  rintro ⟨space, t⟩ hload
  obtain ⟨settings, -, rfl, ht⟩ := load_eq_ok.mp (liftFailure_eq_ok.mp hload)
  have hdecide : FailsOnly P (b.decide t (g.refundsOf settings.spaceId t.id) token) := by
    unfold UnitsBody.decide
    refine FailsOnly.bind (failsOnly_ofOverflow (hleft _ t ht)) fun most _ ↦ ?_
    refine .guard (hP.key _) fun _ ↦ ?_
    refine FailsOnly.bind (.liftFailure (hP.ofUnits fun item ↦ hpriced _ t item _ ht)) ?_
    rintro (_ | request) -
    · exact .error (hP.key _)
    · exact .ok request
  refine hdecide.bind fun request hrequest ↦ ?_
  refine FailsOnly.bind (.liftFailure ?_) fun created _ ↦ .ok _
  exact hcreate _ t request ht (asks_of_decide hquantity hrequest)

theorem AmountBody.failsOnly_run {b : AmountBody} (hP : Rejection.Covers P)
    (hleft : ∀ settings t, file.resolve b.channel = .ok settings →
      g.transaction? settings.spaceId b.transaction = some t →
        FailsOnly (fun operation ↦ P (.failure (.overflow operation))) t.refundableAmount)
    (hcreate : ∀ settings t request, file.resolve b.channel = .ok settings →
      g.transaction? settings.spaceId b.transaction = some t →
      Endpoint.amount.Asks t (g.refundsOf settings.spaceId t.id) request →
        FailsOnly (fun cause ↦ P (.failure cause)) (g.createRefund settings.spaceId request)) :
    FailsOnly P (b.run file g token) := by
  unfold AmountBody.run
  split
  next => exact .error (hP.key _)
  next a _ =>
    refine FailsOnly.bind (.liftFailure (hP.load file g b.channel b.transaction)) ?_
    rintro ⟨space, t⟩ hload
    obtain ⟨settings, hsettings, rfl, ht⟩ := load_eq_ok.mp (liftFailure_eq_ok.mp hload)
    refine FailsOnly.bind (failsOnly_ofOverflow (hleft settings t hsettings ht)) ?_
    intro left hcounted
    rw [liftFailure_eq_ok, ofOverflow_eq_ok] at hcounted
    refine .guard (hP.key _) fun hfits ↦ ?_
    refine FailsOnly.bind (.liftFailure ?_) ?_
    · refine hP.ofAmount.bind fun request hrequest ↦ ?_
      cases request with
      | none => exact .ok _
      | some request =>
        have hasks : Endpoint.amount.Asks t (g.refundsOf settings.spaceId t.id) request :=
          .amount a left hcounted (Decimal.not_lt_iff_le.mp hfits)
            (RefundRequest.names_of_ofAmount hrequest)
        exact (hcreate settings t request hsettings ht hasks).bind fun _ _ ↦ .ok _
    · rintro ⟨_ | refund, after⟩ -
      · exact .error (hP.key _)
      · exact .ok after

theorem PartBody.failsOnly_run {b : PartBody} (hP : Rejection.Covers P)
    (hpriced : ∀ space t item, g.transaction? space b.transaction = some t →
      t.item? b.item = some item → FailsOnly (fun operation ↦ P (.failure (.overflow operation)))
        (item.unitPrice.mul (.ofUInt32 item.quantity)))
    (hcreate : ∀ space t request, g.transaction? space b.transaction = some t →
      Endpoint.part.Asks t (g.refundsOf space t.id) request →
        FailsOnly (fun cause ↦ P (.failure cause)) (g.createRefund space request)) :
    FailsOnly P (b.run file g token) := by
  unfold PartBody.run
  split
  next => exact .error (hP.key _)
  next a _ =>
    refine FailsOnly.bind (.liftFailure (hP.load file g b.channel b.transaction)) ?_
    rintro ⟨space, t⟩ hload
    obtain ⟨settings, -, rfl, ht⟩ := load_eq_ok.mp (liftFailure_eq_ok.mp hload)
    refine FailsOnly.bind (.liftFailure ?_) fun created _ ↦ .ok _
    refine FailsOnly.bind (hP.ofPart fun item ↦ hpriced _ t item ht) fun request hrequest ↦ ?_
    cases request with
    | none => exact .ok _
    | some request =>
      have hasks : Endpoint.part.Asks t (g.refundsOf settings.spaceId t.id) request :=
        Endpoint.asks_of_ofPart hrequest
      exact (hcreate _ t request ht hasks).bind fun _ _ ↦ .ok _

end Run
end Http
end ShopPayments
