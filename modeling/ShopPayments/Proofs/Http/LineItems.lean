import ShopPayments.Proofs.Http.Endpoints
import ShopPayments.Proofs.Refund.Ceilings
import ShopPayments.Proofs.Refund.Units

/-!
# What is booked on a line item

Units and parts of a line item are refunded by different endpoints.  The one for units keeps the
count of units within the quantity and books their full price, the one for parts keeps each part
within the value of the line item, and neither looks at what the other one booked.  So after any
sequence of requests the refunds of a line item move its unit price times the units given back, and
the parts on top of that.
-/

namespace ShopPayments

/-! ## Refunds of a line item -/

/-- Whether a refund reduces a line item. -/
def Refund.reduces (refund : Refund) (itemId : String) : Bool :=
  refund.reductions.any (·.item = itemId)

/-- Whether a refund reduces a line item and gives no unit back. -/
def Refund.isPartOf (refund : Refund) (itemId : String) : Bool :=
  refund.reduces itemId && refund.reductions.all (·.units = 0)

/-- The amount that refunds of one kind moved. -/
def moved (kind : Refund → Bool) (refunds : List Refund) : ℚ :=
  ((refunds.filter kind).map (·.amount.toRat)).sum

theorem moved_append (kind : Refund → Bool) (refunds more : List Refund) :
    moved kind (refunds ++ more) = moved kind refunds + moved kind more := by
  simp [moved]

theorem moved_singleton (kind : Refund → Bool) (refund : Refund) :
    moved kind [refund] = if kind refund then refund.amount.toRat else 0 := by
  by_cases h : kind refund <;> simp [moved, h]

theorem moved_nonneg {refunds : List Refund} (h : ∀ r ∈ refunds, 0 ≤ r.amount.toRat)
    (kind : Refund → Bool) : 0 ≤ moved kind refunds := by
  apply List.sum_nonneg
  intro x hx
  obtain ⟨r, hr, rfl⟩ := List.mem_map.mp hx
  exact h r (List.mem_filter.mp hr).1

/-- Refunds of one kind move at most what all of them move. -/
theorem moved_le_sum {refunds : List Refund} (h : ∀ r ∈ refunds, 0 ≤ r.amount.toRat)
    (kind : Refund → Bool) : moved kind refunds ≤ (refunds.map (·.amount.toRat)).sum := by
  induction refunds with
  | nil => simp [moved]
  | cons r rest ih =>
    have hfirst := h r List.mem_cons_self
    have hrest := ih fun r' hr' ↦ h r' (List.mem_cons_of_mem r hr')
    have hsplit := moved_append kind [r] rest
    rw [List.singleton_append, moved_singleton] at hsplit
    rw [hsplit, List.map_cons, List.sum_cons]
    split <;> linarith

theorem moved_isCents {refunds : List Refund} (h : ∀ r ∈ refunds, Money.IsCents r.amount.toRat)
    (kind : Refund → Bool) : Money.IsCents (moved kind refunds) := by
  induction refunds with
  | nil => exact ⟨0, by simp [moved]⟩
  | cons r rest ih =>
    have hrest := ih fun r' hr' ↦ h r' (List.mem_cons_of_mem r hr')
    have hsplit := moved_append kind [r] rest
    rw [List.singleton_append, moved_singleton] at hsplit
    rw [hsplit]
    split
    · exact (h r List.mem_cons_self).add hrest
    · rwa [zero_add]

/-- The amount that the refunds which reduce a line item moved. -/
def bookedOn (refunds : List Refund) (itemId : String) : ℚ :=
  moved (·.reduces itemId) refunds

/-- The amount that those of them moved which gave no unit back. -/
def bookedParts (refunds : List Refund) (itemId : String) : ℚ :=
  moved (·.isPartOf itemId) refunds

/-- A refund books its units of a line item at the full price, or a part of at most the value. -/
structure Refund.Settles (refund : Refund) (item : TransactionItem) (taken : ℕ) : Prop where
  taken_le : taken + takenUnits [refund] item.uniqueId ≤ item.quantity.toNat
  booked_eq : bookedOn [refund] item.uniqueId =
    item.unitPrice.toRat * takenUnits [refund] item.uniqueId + bookedParts [refund] item.uniqueId
  amount_nonneg : refund.reduces item.uniqueId → 0 ≤ refund.amount.toRat
  amount_le : refund.reduces item.uniqueId → refund.amount.toRat ≤ item.value

namespace Refund

variable {refund : Refund} {item : TransactionItem} {taken : ℕ}

theorem reduces_iff {reduction : Reduction} (h : refund.reductions = [reduction])
    (itemId : String) : refund.reduces itemId ↔ reduction.item = itemId := by
  simp [reduces, h]

/-- A refund that does not reduce a line item has no reduction of it. -/
theorem reductionsOf_singleton_of_not_reduces {itemId : String} (h : ¬ refund.reduces itemId) :
    reductionsOf [refund] itemId = [] := by
  have hreductions : ∀ r ∈ refund.reductions, ¬ r.item = itemId := by
    simpa [reduces] using h
  have hfilter : refund.reductions.filter (·.item = itemId) = [] := by
    simpa using hreductions
  unfold reductionsOf
  by_cases hstate : refund.state = .failed <;> simp [hstate, hfilter]

theorem not_isPartOf_of_not_reduces {itemId : String} (h : ¬ refund.reduces itemId) :
    ¬ refund.isPartOf itemId := by
  simp [isPartOf, h]

theorem not_isPartOf_of_units {itemId : String} {units : UInt32} {priceCut : Decimal}
    (hreductions : refund.reductions = [⟨itemId, units, priceCut⟩]) (hpositive : 0 < units.toNat) :
    ¬ refund.isPartOf itemId := by
  have hne : units ≠ 0 := by
    intro hzero
    rw [hzero] at hpositive
    exact absurd hpositive (by decide)
  simp [isPartOf, hreductions, hne]

theorem isPartOf_of_cut {itemId : String} {priceCut : Decimal}
    (hreductions : refund.reductions = [⟨itemId, 0, priceCut⟩]) : refund.isPartOf itemId := by
  simp [isPartOf, reduces, hreductions]

theorem settles_of_not_reduces (htaken : taken ≤ item.quantity.toNat)
    (h : ¬ refund.reduces item.uniqueId) : refund.Settles item taken := by
  have hnone : takenUnits [refund] item.uniqueId = 0 := by
    rw [takenUnits, reductionsOf_singleton_of_not_reduces h]
    rfl
  have hpart := not_isPartOf_of_not_reduces h
  refine ⟨?_, ?_, fun hreduces ↦ absurd hreduces h, fun hreduces ↦ absurd hreduces h⟩
  · omega
  · rw [bookedOn, bookedParts, moved_singleton, moved_singleton, if_neg h, if_neg hpart, hnone]
    simp

theorem settles_units {units : UInt32} (hstate : refund.state ≠ .failed)
    (hreductions : refund.reductions = [⟨item.uniqueId, units, 0⟩]) (hpositive : 0 < units.toNat)
    (htaken : taken + units.toNat ≤ item.quantity.toNat) (hprice : 0 ≤ item.unitPrice.toRat)
    (hamount : refund.amount.toRat = item.unitPrice.toRat * units.toNat) :
    refund.Settles item taken := by
  have hgiven : takenUnits [refund] item.uniqueId = units.toNat := by
    rw [takenUnits_singleton hstate hreductions, if_pos rfl]
  have hreduces : refund.reduces item.uniqueId := (reduces_iff hreductions _).mpr rfl
  have hpart := not_isPartOf_of_units hreductions hpositive
  refine ⟨?_, ?_, ?_, ?_⟩
  · rw [hgiven]
    exact htaken
  · rw [bookedOn, bookedParts, moved_singleton, moved_singleton, if_pos hreduces, if_neg hpart,
      hgiven, hamount, add_zero]
  · intro _
    rw [hamount]
    positivity
  · intro _
    rw [hamount, TransactionItem.value]
    have hle : (units.toNat : ℚ) ≤ item.quantity.toNat := by exact_mod_cast by omega
    exact mul_le_mul_of_nonneg_left hle hprice

theorem settles_part {priceCut : Decimal} (hstate : refund.state ≠ .failed)
    (hreductions : refund.reductions = [⟨item.uniqueId, 0, priceCut⟩])
    (htaken : taken ≤ item.quantity.toNat) (hnonneg : 0 ≤ refund.amount.toRat)
    (hle : refund.amount.toRat ≤ item.value) : refund.Settles item taken := by
  have hgiven : takenUnits [refund] item.uniqueId = 0 := by
    rw [takenUnits_singleton hstate hreductions, if_pos rfl]
    rfl
  have hreduces : refund.reduces item.uniqueId := (reduces_iff hreductions _).mpr rfl
  have hpart := isPartOf_of_cut hreductions
  refine ⟨?_, ?_, fun _ ↦ hnonneg, fun _ ↦ hle⟩
  · rw [hgiven]
    exact htaken
  · rw [bookedOn, bookedParts, moved_singleton, moved_singleton, if_pos hreduces, if_pos hpart,
      hgiven]
    simp

end Refund

namespace Http

/-! ## One request -/

variable {endpoint : Endpoint} {g after : Gateway} {space : UInt64} {t : Transaction}
  {request : RefundRequest} {total : Decimal} {refund : Refund} {item : TransactionItem}

theorem Endpoint.Books.settles (h : endpoint.Books g space t request total refund after)
    (hitem : t.item? item.uniqueId = some item) (hexact : item.Exact)
    (htaken : takenUnits (g.refundsOf space t.id) item.uniqueId ≤ item.quantity.toNat) :
    refund.Settles item (takenUnits (g.refundsOf space t.id) item.uniqueId) := by
  have hpriced := h.booked.priced
  have hstate : refund.state ≠ .failed := by
    rw [h.booked.state_eq]
    decide
  cases h.asks with
  | units other units left found positive counted fits names =>
    have hreductions := h.booked.reductions_eq.trans names.reductions_eq
    by_cases hsame : other.uniqueId = item.uniqueId
    · rw [hsame, hitem] at found
      obtain rfl := Option.some.inj found
      have hunits : units ≤ item.quantity :=
        UInt32.le_trans fits (Transaction.refundableUnits_le hitem counted)
      exact Refund.settles_units hstate hreductions positive
        (Transaction.takenUnits_add_le hitem counted fits positive) hexact.nonneg
        (hexact.toRat_value_units names hitem hunits hpriced)
    · exact Refund.settles_of_not_reduces htaken fun hreduces ↦
        hsame ((Refund.reduces_iff hreductions _).mp hreduces)
  | amount amount left counted fits names =>
    have hreductions := h.booked.reductions_eq.trans names.reductions_eq
    exact Refund.settles_of_not_reduces htaken (by simp [Refund.reduces, hreductions])
  | part other amount value nonempty found priced fits names =>
    have hreductions := h.booked.reductions_eq.trans names.reductions_eq
    by_cases hsame : other.uniqueId = item.uniqueId
    · rw [hsame, hitem] at found
      obtain rfl := Option.some.inj found
      have hasked : 0 ≤ amount.value.toRat := ((Decimal.toRat_pos_iff _).mp amount.positive).le
      obtain ⟨hnonneg, hle⟩ :=
        hexact.toRat_value_part nonempty names hitem hasked priced fits hpriced
      exact Refund.settles_part hstate hreductions htaken hnonneg hle
    · exact Refund.settles_of_not_reduces htaken fun hreduces ↦
        hsame ((Refund.reduces_iff hreductions _).mp hreduces)

/-! ## Sequences of requests -/

/-- The refunds of a line item book its units at the full price and parts of at most its value. -/
structure Settled (refunds : List Refund) (item : TransactionItem) : Prop where
  taken_le : takenUnits refunds item.uniqueId ≤ item.quantity.toNat
  booked_eq : bookedOn refunds item.uniqueId =
    item.unitPrice.toRat * takenUnits refunds item.uniqueId + bookedParts refunds item.uniqueId
  amount_nonneg : ∀ r ∈ refunds, r.reduces item.uniqueId → 0 ≤ r.amount.toRat
  amount_le : ∀ r ∈ refunds, r.reduces item.uniqueId → r.amount.toRat ≤ item.value

theorem settled_nil (item : TransactionItem) : Settled [] item where
  taken_le := Nat.zero_le _
  booked_eq := by simp [bookedOn, bookedParts, moved]
  amount_nonneg := by simp
  amount_le := by simp

theorem Settled.append {refunds : List Refund} (h : Settled refunds item)
    (hrefund : refund.Settles item (takenUnits refunds item.uniqueId)) :
    Settled (refunds ++ [refund]) item where
  taken_le := by
    rw [takenUnits_append]
    exact hrefund.taken_le
  booked_eq := by
    have hold := h.booked_eq
    have hnew := hrefund.booked_eq
    unfold bookedOn bookedParts at hold hnew ⊢
    rw [moved_append, moved_append, takenUnits_append, hold, hnew]
    push_cast
    ring
  amount_nonneg := by
    intro r hr
    rcases List.mem_append.mp hr with hold | hnew
    · exact h.amount_nonneg r hold
    · rw [List.mem_singleton.mp hnew]
      exact hrefund.amount_nonneg
  amount_le := by
    intro r hr
    rcases List.mem_append.mp hr with hold | hnew
    · exact h.amount_le r hold
    · rw [List.mem_singleton.mp hnew]
      exact hrefund.amount_le

theorem Settled.handle {file : SettingsFile} {token : String} {r : Request} {id : UInt64}
    (hkeyed : g.Keyed) (ht : g.transaction? space id = some t)
    (hitem : t.item? item.uniqueId = some item) (hexact : item.Exact)
    (h : Settled (g.refundsOf space id) item) :
    Settled ((handle file g token r).2.refundsOf space id) item := by
  rcases handle_cases_at file hkeyed token r ht with
    ⟨-, hsame⟩ | ⟨-, endpoint, request, total, refund, -, hbooks, -, hrefunds⟩
  · rw [hsame]
    exact h
  · have hid := hkeyed.id_eq ht
    rw [hrefunds]
    rw [← hid] at h ⊢
    exact h.append (hbooks.settles hitem hexact h.taken_le)

/-- After any sequence of requests, at most the quantity of a line item was given back, and its
refunds moved the unit price for each unit given back and the parts, each of which is at most the
value of the line item.  Together they stay within the value exactly if the parts stay within the
price of the units that are left. -/
theorem serve_bookedOn (file : SettingsFile) (hkeyed : g.Keyed)
    (requests : List (String × Request)) {id : UInt64} (ht : g.transaction? space id = some t)
    (hnone : g.refundsOf space id = []) (hdistinct : (t.items.map (·.uniqueId)).Nodup)
    (hitem : item ∈ t.items) (hprice : 0 ≤ item.unitPrice)
    (hcents : Money.IsCents item.unitPrice.toRat)
    (hroom : item.value * 100 < Decimal.magnitudeBound) :
    ∃ refunds, (serve file g requests).refundsOf space id = refunds ∧
      takenUnits refunds item.uniqueId ≤ item.quantity.toNat ∧
      bookedOn refunds item.uniqueId =
        item.unitPrice.toRat * takenUnits refunds item.uniqueId +
          bookedParts refunds item.uniqueId ∧
      (∀ r ∈ refunds, r.reduces item.uniqueId →
        0 ≤ r.amount.toRat ∧ r.amount.toRat ≤ item.value) ∧
      (bookedOn refunds item.uniqueId ≤ item.value ↔
        bookedParts refunds item.uniqueId ≤
          item.unitPrice.toRat * (item.quantity.toNat - takenUnits refunds item.uniqueId)) := by
  have hexact : item.Exact := ⟨(Decimal.toRat_nonneg_iff _).mp hprice, hcents, hroom⟩
  have hsettled : Settled ((serve file g requests).refundsOf space id) item := by
    apply serve_induction hkeyed (motive := fun later ↦ Settled (later.refundsOf space id) item)
    · rw [hnone]
      exact settled_nil item
    · intro later token r hlater hext h
      obtain ⟨t', ht', hsame⟩ := hext.exists_later ht
      have hitem' : t'.item? item.uniqueId = some item := by
        rw [Transaction.item?_congr hsame]
        exact Transaction.item?_of_mem hdistinct hitem
      exact h.handle hlater ht' hitem' hexact
  refine ⟨_, rfl, hsettled.taken_le, hsettled.booked_eq, ?_, ?_⟩
  · intro r hr hreduces
    exact ⟨hsettled.amount_nonneg r hr hreduces, hsettled.amount_le r hr hreduces⟩
  · rw [hsettled.booked_eq, TransactionItem.value, mul_sub]
    constructor <;> intro hle <;> linarith

/-- Asks for ten of the value of the hat. -/
def refundPartOfHat : Request :=
  post "create-partial-refund/"
    "\x7b\"transactionId\":42,\"refundableAmount\":10,\"lineItemId\":\"hat\"\x7d"

/-- Asks for the one unit of the hat. -/
def refundHat : Request :=
  post "create-refund/" "\x7b\"transactionId\":42,\"quantity\":1,\"lineItemId\":\"hat\"\x7d"

theorem hat_price : hat.unitPrice.toRat = 10 := by
  rw [show hat.unitPrice = .ofUInt32 10 from rfl, Decimal.toRat_ofUInt32]
  rfl

theorem hat_value : hat.value = 10 := by
  rw [TransactionItem.value, hat_price, show hat.quantity.toNat = 1 from rfl]
  norm_num

theorem serve_bookedOn_hat :
    ∃ refunds, (serve oneSpace (Gateway.holding hatAndSock)
        [("one", refundPartOfHat), ("two", refundHat)]).refundsOf 1 42 = refunds ∧
      takenUnits refunds "hat" ≤ 1 ∧
      bookedOn refunds "hat" = 10 * takenUnits refunds "hat" + bookedParts refunds "hat" := by
  have ht : (Gateway.holding hatAndSock).transaction? 1 42 = some hatAndSock := rfl
  obtain ⟨refunds, hrefunds, htaken, hbooked, -⟩ :=
    serve_bookedOn oneSpace (Gateway.keyed_holding hatAndSock)
      [("one", refundPartOfHat), ("two", refundHat)] ht rfl (by decide)
      (by decide : hat ∈ hatAndSock.items) (by decide) (Money.isCents_of_scale_le (by decide))
      (by rw [hat_value, Decimal.magnitudeBound_eq]; norm_num)
  rw [hat_price] at hbooked
  exact ⟨refunds, hrefunds, htaken, hbooked⟩

/-- Six bells at a price that leaves no room for the cents of three. -/
def bell : TransactionItem :=
  ⟨"bell", "Bell", none, 6,
    ⟨false, 26409387504754779197847983452, 2, by decide, Money.places_le_maxScale⟩,
    .ofUInt32 0, .product⟩

def bells : Transaction where
  id := 42
  space := 1
  state := .fulfill
  merchantReference := none
  currency := "EUR"
  authorized := ⟨false, 20000000000000000000000000000, 1, by decide, by decide⟩
  captured := ⟨false, 20000000000000000000000000000, 1, by decide, by decide⟩
  refunded := 0
  items := [bell]
  supportsRefunds := true

/-- Asks for three of the bells. -/
def refundBells : Request :=
  post "create-refund/" "\x7b\"transactionId\":42,\"quantity\":3,\"lineItemId\":\"bell\"\x7d"

/-- A part and then the unit of the hat move twice its value, and where there is no room for cents
already the units of a line item move more than its value. -/
theorem bookedOn_gt_value :
    (hat ∈ hatAndSock.items ∧
      hat.value < bookedOn ((serve oneSpace (Gateway.holding hatAndSock)
        [("one", refundPartOfHat), ("two", refundHat)]).refundsOf 1 42) hat.uniqueId) ∧
    bell ∈ bells.items ∧
      bell.value < bookedOn ((serve oneSpace (Gateway.holding bells)
        [("one", refundBells), ("two", refundBells)]).refundsOf 1 42) bell.uniqueId := by
  have hhat : (serve oneSpace (Gateway.holding hatAndSock)
      [("one", refundPartOfHat), ("two", refundHat)]).refundsOf 1 42 =
      [⟨1, 1, 42, .successful, .ofUInt32 10, "refund_one", [⟨"hat", 0, .ofUInt32 10⟩]⟩,
        ⟨2, 1, 42, .successful, .ofUInt32 10, "refund_two", [⟨"hat", 1, 0⟩]⟩] := by
    decide +kernel
  have hbell : (serve oneSpace (Gateway.holding bells)
      [("one", refundBells), ("two", refundBells)]).refundsOf 1 42 =
      [⟨1, 1, 42, .successful, ⟨false, 7922816251426433759354395036, 1, by decide, by decide⟩,
          "refund_one", [⟨"bell", 3, 0⟩]⟩,
        ⟨2, 1, 42, .successful, ⟨false, 7922816251426433759354395036, 1, by decide, by decide⟩,
          "refund_two", [⟨"bell", 3, 0⟩]⟩] := by
    decide +kernel
  rw [hhat, hbell, hat_value]
  refine ⟨⟨by decide, ?_⟩, by decide, ?_⟩
  · have hten : (10 : UInt32).toNat = 10 := rfl
    norm_num [bookedOn, moved, Refund.reduces, hat, Decimal.toRat_ofUInt32, hten]
  · have hsix : (6 : UInt32).toNat = 6 := rfl
    norm_num [bookedOn, moved, Refund.reduces, TransactionItem.value, bell, Decimal.toRat_eq,
      Decimal.mantissa, hsix]

end Http
end ShopPayments
