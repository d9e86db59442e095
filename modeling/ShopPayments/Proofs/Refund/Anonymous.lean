import ShopPayments.Proofs.Outcome
import ShopPayments.Proofs.Text
import ShopPayments.Refund.Builder
import ShopPayments.Refund.Limits
import ShopPayments.Refund.Pricing

/-!
# Refunds up to their ids

A request carries a random id by which it is known outside, and a booked refund a number besides.
Neither has a say in anything else: requests that are built with different random ids are refused
for the same cause or are the same otherwise, they are worth the same, and they are booked alike.
-/

namespace ShopPayments

/-- A refund without its ids. -/
def Refund.anonymous (refund : Refund) : Refund := { refund with id := 0, externalId := "" }

namespace RefundRequest

/-- Two requests are the same up to the ids that they are known by outside. -/
def Alike (request request' : RefundRequest) : Prop :=
  ∃ externalId, request' = { request with externalId }

/-! ## Building -/

/-- The id of a request is never what the payment service turns down. -/
theorem violations_externalIdFor (request : RefundRequest) (token : String) :
    Validated.violations { request with externalId := externalIdFor token } =
      Violation.atMost "merchant_reference" 100 request.merchantReference ++
        Violation.check "transaction" (0 < request.transaction) ++
        request.reductions.flatMap
          fun reduction ↦ Violation.needs "line_item_unique_id" reduction.item := by
  have hneeded : Violation.needs "external_id" (externalIdFor token) = [] := by
    rw [Violation.needs_eq_nil]
    apply Text.size_cut_pos (by decide)
    rw [Text.size_append]
    exact Nat.lt_add_right _ (by decide)
  have hshort : Violation.atMost "external_id" 100 (externalIdFor token) = [] := by
    rw [Violation.atMost_eq_nil]
    rintro _ ⟨⟩
    exact Text.size_cut_le _ _
  simp only [Validated.violations]
  rw [hneeded, hshort]
  simp

/-- A request is valid exactly for a transaction that has an id and for line items that have one. -/
theorem exists_forTransaction_iff {t : Transaction} {token : String} {amount : Option Decimal}
    {reductions : List Reduction} :
    (∃ request, forTransaction t token amount reductions = .ok request) ↔
      0 < t.id ∧ ∀ reduction ∈ reductions, 0 < Text.size reduction.item := by
  let built : RefundRequest :=
    { amount, externalId := "", merchantReference := t.merchantReference.map (Text.cut · 100)
      reductions, transaction := t.id, type := .merchantOnline }
  have hshort : Violation.atMost "merchant_reference" 100 built.merchantReference = [] := by
    rw [Violation.atMost_eq_nil]
    intro s hs
    obtain ⟨reference, -, rfl⟩ := Option.map_eq_some_iff.mp hs
    exact Text.size_cut_le _ _
  have hbuilt : forTransaction t token amount reductions =
      ensureValid { built with externalId := externalIdFor token } := rfl
  simp only [hbuilt, ensureValid_eq_ok, isValid_iff, violations_externalIdFor built, hshort]
  by_cases hid : 0 < t.id <;>
    simp [built, Violation.check, hid, List.flatMap_eq_nil_iff, Violation.needs_eq_nil]

theorem parallel_forTransaction (t : Transaction) (token token' : String)
    (amount : Option Decimal) (reductions : List Reduction) :
    Parallel Alike (forTransaction t token amount reductions)
      (forTransaction t token' amount reductions) := by
  let built : RefundRequest :=
    { amount, externalId := "", merchantReference := t.merchantReference.map (Text.cut · 100)
      reductions, transaction := t.id, type := .merchantOnline }
  change Parallel Alike (ensureValid { built with externalId := externalIdFor token })
    (ensureValid { built with externalId := externalIdFor token' })
  unfold ensureValid
  rw [violations_externalIdFor, violations_externalIdFor]
  split
  · exact .ok ⟨_, rfl⟩
  · exact .error _

/-- Two requests that may not have been made. -/
def OptionAlike : Option RefundRequest → Option RefundRequest → Prop := Option.Rel Alike

theorem parallel_some (t : Transaction) (token token' : String) (amount : Option Decimal)
    (reductions : List Reduction) :
    Parallel OptionAlike
      (do let request ← forTransaction t token amount reductions; pure (some request))
      (do let request ← forTransaction t token' amount reductions; pure (some request)) :=
  (parallel_forTransaction t token token' amount reductions).bind
    fun _ _ h ↦ .ok (.some h)

theorem parallel_ofUnits (t : Transaction) (token token' itemId : String) (units : UInt32) :
    Parallel OptionAlike (ofUnits t token itemId units) (ofUnits t token' itemId units) := by
  apply Parallel.step
  intro item _
  apply Parallel.step
  intro amount _
  split
  · exact parallel_some t token token' none _
  · exact .ok .none

theorem parallel_ofAmount (t : Transaction) (token token' : String) (amount : Decimal) :
    Parallel OptionAlike (ofAmount t token amount) (ofAmount t token' amount) := by
  unfold ofAmount
  split
  · exact parallel_some t token token' _ []
  · exact .ok .none

theorem parallel_ofPart (t : Transaction) (token token' itemId : String) (amount : Decimal) :
    Parallel OptionAlike (ofPart t token itemId amount) (ofPart t token' itemId amount) := by
  apply Parallel.step
  intro item _
  split
  · exact .ok .none
  · apply Parallel.step
    intro value _
    split
    · exact parallel_some t token token' none _
    · exact .ok .none

/-! ## Pricing and booking -/

theorem Alike.value_eq {request request' : RefundRequest} (h : request.Alike request')
    (t : Transaction) : request.value t = request'.value t := by
  obtain ⟨externalId, rfl⟩ := h
  rfl

end RefundRequest

/-- Requests that are alike are booked alike, whatever the numbers of the refunds. -/
theorem Transaction.parallel_book (t : Transaction) {request request' : RefundRequest}
    (h : request.Alike request') (id id' : UInt64) :
    Parallel (fun b b' ↦ b.transaction = b'.transaction ∧ b.refund.anonymous = b'.refund.anonymous)
      (t.book request id) (t.book request' id') := by
  unfold book
  apply Parallel.guard
  rw [h.value_eq]
  apply Parallel.step
  intro amount _
  apply Parallel.step
  intro available _
  apply Parallel.guard
  apply Parallel.step
  intro refunded _
  obtain ⟨externalId, rfl⟩ := h
  exact .ok ⟨rfl, rfl⟩

/-! ## Counting -/

theorem reductionsOf_map_anonymous (refunds : List Refund) (itemId : String) :
    reductionsOf (refunds.map Refund.anonymous) itemId = reductionsOf refunds itemId := by
  simp [reductionsOf, List.filter_map, List.flatMap_map, Function.comp_def, Refund.anonymous]

theorem Transaction.refundableUnits_congr (t : Transaction) {refunds refunds' : List Refund}
    (h : refunds.map Refund.anonymous = refunds'.map Refund.anonymous) (itemId : String) :
    t.refundableUnits refunds itemId = t.refundableUnits refunds' itemId := by
  have hreductions : reductionsOf refunds itemId = reductionsOf refunds' itemId := by
    rw [← reductionsOf_map_anonymous refunds, h, reductionsOf_map_anonymous]
  unfold refundableUnits refundedUnits
  rw [hreductions]

end ShopPayments
