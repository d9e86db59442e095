import ShopPayments.Proofs.Money
import ShopPayments.Proofs.Outcome
import ShopPayments.Refund.Builder
import ShopPayments.Refund.Limits
import ShopPayments.Refund.Pricing

/-!
# What is asked for, and what it is worth

A request for units of a line item names that many units and no cut, a request for part of a line
item names a cut and no units, and a request for a plain amount names no line item.  From this the
gateway prices them: units at their full price, a part at the cut on every unit.  Of prices that
are not negative no request is worth less than nothing, and whole cents are priced exactly.
-/

namespace ShopPayments

/-! ## Line items -/

theorem Transaction.item_eq_ok {t : Transaction} {id : String} {item : TransactionItem} :
    t.item id = .ok item ↔ t.item? id = some item := by
  unfold Transaction.item
  cases t.item? id <;> simp

theorem Transaction.uniqueId_of_item? {t : Transaction} {id : String} {item : TransactionItem}
    (h : t.item? id = some item) : item.uniqueId = id := by
  simpa using List.find?_some h

/-- Where ids are distinct, every line item is found under its own. -/
theorem Transaction.item?_of_mem {t : Transaction} {item : TransactionItem}
    (hdistinct : (t.items.map (·.uniqueId)).Nodup) (hitem : item ∈ t.items) :
    t.item? item.uniqueId = some item := by
  unfold Transaction.item?
  generalize t.items = items at hdistinct hitem
  induction items with
  | nil => cases hitem
  | cons first rest ih =>
    rw [List.map_cons, List.nodup_cons] at hdistinct
    cases List.mem_cons.mp hitem with
    | inl hfirst => simp [hfirst]
    | inr hrest =>
      have hne : ¬ first.uniqueId = item.uniqueId := by
        intro heq
        rw [heq] at hdistinct
        exact hdistinct.1 (List.mem_map_of_mem hrest)
      rw [List.find?_cons_of_neg (by simpa using hne)]
      exact ih hdistinct.2 hrest

theorem Transaction.item?_congr {t t' : Transaction} (h : t' = { t with refunded := t'.refunded })
    (id : String) : t'.item? id = t.item? id := by
  rw [h]
  rfl

namespace RefundRequest

/-! ## Building -/

variable {t : Transaction} {token : String} {request : RefundRequest}

/-- The request names the transaction, an amount and reductions. -/
structure Names (request : RefundRequest) (t : Transaction) (amount : Option Decimal)
    (reductions : List Reduction) : Prop where
  amount_eq : request.amount = amount
  reductions_eq : request.reductions = reductions
  transaction_eq : request.transaction = t.id

theorem names_of_forTransaction {amount : Option Decimal} {reductions : List Reduction}
    (h : forTransaction t token amount reductions = .ok request) :
    request.Names t amount reductions := by
  rw [(ensureValid_eq_ok.mp h).2]
  exact ⟨rfl, rfl, rfl⟩

theorem isRefundable_iff {amount ceiling : Decimal} :
    isRefundable t amount ceiling = true ↔ t.state = .fulfill ∧ amount ≤ ceiling := by
  simp [isRefundable]

/-- How each of the three kinds of requests is made in the end. -/
theorem refundable_eq_ok {amount ceiling : Decimal} {plain : Option Decimal}
    {reductions : List Reduction} :
    (if isRefundable t amount ceiling then do
        let request ← forTransaction t token plain reductions
        pure (some request)
      else pure none) = Except.ok (some request) ↔
      t.state = .fulfill ∧ amount ≤ ceiling ∧
        forTransaction t token plain reductions = .ok request := by
  rw [← and_assoc, ← isRefundable_iff]
  split
  next hrefundable =>
    simp only [bind_eq_ok, pure_eq_ok, Option.some.injEq, exists_eq_right, hrefundable, true_and]
  next hrefundable =>
    rw [pure_eq_ok]
    simp [hrefundable]

/-- What a request for units of a line item reduces; no units mean the whole line item. -/
def unitsReduction (item : TransactionItem) (units : UInt32) : Reduction :=
  if units = 0 then ⟨item.uniqueId, item.quantity, item.unitPrice⟩ else ⟨item.uniqueId, units, 0⟩

theorem ofUnits_eq_ok {itemId : String} {units : UInt32} :
    ofUnits t token itemId units = .ok (some request) ↔
      ∃ item, t.item? itemId = some item ∧ ∃ amount,
        (Decimal.ofUInt32 (unitsReduction item units).units).mul item.unitPrice = .ok amount ∧
          t.state = .fulfill ∧ amount ≤ t.authorized ∧
            forTransaction t token none [unitsReduction item units] = .ok request := by
  unfold ofUnits unitsReduction
  by_cases hunits : units = 0 <;>
    simp only [bind_eq_ok, Transaction.item_eq_ok, liftOverflow_eq_ok, refundable_eq_ok, hunits,
      if_true, if_false]

theorem names_of_ofUnits {itemId : String} {units : UInt32} (hunits : units ≠ 0)
    (h : ofUnits t token itemId units = .ok (some request)) :
    ∃ item, t.item? itemId = some item ∧ request.Names t none [⟨itemId, units, 0⟩] := by
  obtain ⟨item, hitem, -, -, -, -, hbuilt⟩ := ofUnits_eq_ok.mp h
  rw [unitsReduction, if_neg hunits, Transaction.uniqueId_of_item? hitem] at hbuilt
  exact ⟨item, hitem, names_of_forTransaction hbuilt⟩

theorem ofAmount_eq_ok {amount : Decimal} :
    ofAmount t token amount = .ok (some request) ↔
      t.state = .fulfill ∧ amount ≤ t.authorized ∧
        forTransaction t token (some (Money.round amount)) [] = .ok request := refundable_eq_ok

theorem names_of_ofAmount {amount : Decimal}
    (h : ofAmount t token amount = .ok (some request)) :
    request.Names t (some (Money.round amount)) [] :=
  names_of_forTransaction (ofAmount_eq_ok.mp h).2.2

theorem ofPart_eq_ok {itemId : String} {amount : Decimal} :
    ofPart t token itemId amount = .ok (some request) ↔
      ∃ item, t.item? itemId = some item ∧ ∃ hquantity : 0 < item.quantity.toNat, ∃ value,
        item.unitPrice.mul (.ofUInt32 item.quantity) = .ok value ∧
          t.state = .fulfill ∧ amount ≤ value ∧
            forTransaction t token none
              [⟨itemId, 0, amount.divCount item.quantity.toNat hquantity⟩] = .ok request := by
  unfold ofPart
  simp only [bind_eq_ok, Transaction.item_eq_ok]
  refine exists_congr fun item ↦ and_congr_right fun _ ↦ ?_
  split
  next hzero =>
    rw [pure_eq_ok]
    simp [hzero]
  next hquantity =>
    simp only [bind_eq_ok, liftOverflow_eq_ok, refundable_eq_ok, units_pos hquantity,
      exists_true_left]

theorem names_of_ofPart {itemId : String} {amount : Decimal}
    (h : ofPart t token itemId amount = .ok (some request)) :
    ∃ item value, ∃ hquantity : 0 < item.quantity.toNat, t.item? itemId = some item ∧
      item.unitPrice.mul (.ofUInt32 item.quantity) = .ok value ∧ amount ≤ value ∧
      request.Names t none [⟨itemId, 0, amount.divCount item.quantity.toNat hquantity⟩] := by
  obtain ⟨item, hitem, hquantity, value, hvalue, -, hle, hbuilt⟩ := ofPart_eq_ok.mp h
  exact ⟨item, value, hquantity, hitem, hvalue, hle, names_of_forTransaction hbuilt⟩

/-! ## Pricing -/

theorem reductionValue_eq_ok {r : Reduction} {value : Decimal} :
    reductionValue t r = .ok value ↔
      ∃ item, t.item? r.item = some item ∧
        ∃ full, (Decimal.ofUInt32 (min r.units item.quantity)).mul item.unitPrice = .ok full ∧
          ∃ cut, (Decimal.ofUInt32 (item.quantity - min r.units item.quantity)).mul r.priceCut =
            .ok cut ∧ full.add cut = .ok value := by
  unfold reductionValue
  simp only [bind_eq_ok, Transaction.item_eq_ok, liftOverflow_eq_ok]

section

variable {item : TransactionItem} {r : Reduction} {value : Decimal}

/-- Where the units that stay are not cut, a reduction is worth the full price of the others. -/
theorem reductionValue_full (hitem : t.item? r.item = some item)
    (hcut : ((item.quantity - min r.units item.quantity).toNat : ℚ) * r.priceCut.toRat = 0)
    (h : reductionValue t r = .ok value) :
    value.Stores ((min r.units item.quantity).toNat * item.unitPrice.toRat) := by
  rw [reductionValue_eq_ok] at h
  obtain ⟨item', hitem', full, hfull, cut, hcuts, hvalue⟩ := h
  obtain rfl : item = item' := Option.some.inj (hitem.symm.trans hitem')
  have hnone : cut.toRat = 0 := by
    apply Decimal.toRat_mul_eq_zero hcuts
    rw [Decimal.toRat_ofUInt32]
    exact mul_eq_zero.mp hcut
  have hsame : value.toRat = full.toRat := Decimal.toRat_add_of_right_eq_zero hvalue hnone
  have hstores := Decimal.mul_stores hfull
  rw [Decimal.toRat_ofUInt32] at hstores
  exact hstores.congr hsame

/-- A cut alone counts on every unit. -/
theorem reductionValue_cut {itemId : String} {priceCut : Decimal}
    (hitem : t.item? itemId = some item)
    (h : reductionValue t ⟨itemId, 0, priceCut⟩ = .ok value) :
    ∃ cut, (Decimal.ofUInt32 item.quantity).mul priceCut = .ok cut ∧ value.toRat = cut.toRat := by
  rw [reductionValue_eq_ok] at h
  obtain ⟨item', hitem', full, hfull, cut, hcut, hvalue⟩ := h
  obtain rfl : item = item' := Option.some.inj (hitem.symm.trans hitem')
  have hmin : min 0 item.quantity = 0 :=
    if_pos (UInt32.le_iff_toNat_le.mpr (Nat.zero_le _))
  rw [hmin] at hfull
  rw [hmin, UInt32.sub_zero] at hcut
  have hnone : full.toRat = 0 := Decimal.toRat_mul_eq_zero hfull (Or.inl (by simp))
  exact ⟨cut, hcut, Decimal.toRat_add_of_left_eq_zero hvalue hnone⟩

/-- A reduction whose units or whose cut is worth nothing is priced if the other one has room. -/
theorem exists_reductionValue (hitem : t.item? r.item = some item)
    (hunits : |(min r.units item.quantity).toNat * item.unitPrice.toRat| ≤
      Decimal.magnitudeBound - 1)
    (hcuts : |((item.quantity - min r.units item.quantity).toNat : ℚ) * r.priceCut.toRat| ≤
      Decimal.magnitudeBound - 1)
    (hone : (min r.units item.quantity).toNat * item.unitPrice.toRat = 0 ∨
      ((item.quantity - min r.units item.quantity).toNat : ℚ) * r.priceCut.toRat = 0) :
    ∃ value, reductionValue t r = .ok value := by
  obtain ⟨full, hfull⟩ : ∃ full,
      (Decimal.ofUInt32 (min r.units item.quantity)).mul item.unitPrice = .ok full :=
    Decimal.exists_mul (by rwa [Decimal.toRat_ofUInt32])
  obtain ⟨cut, hcut⟩ : ∃ cut,
      (Decimal.ofUInt32 (item.quantity - min r.units item.quantity)).mul r.priceCut = .ok cut :=
    Decimal.exists_mul (by rwa [Decimal.toRat_ofUInt32])
  obtain ⟨value, hvalue⟩ : ∃ value, full.add cut = .ok value := by
    apply Decimal.exists_add
    rw [← Decimal.toRat_ofUInt32, ← Decimal.toRat_ofUInt32, mul_eq_zero, mul_eq_zero] at hone
    rcases hone with hfree | huncut
    · rw [Decimal.toRat_mul_eq_zero hfull hfree, zero_add]
      exact Decimal.toRat_abs_le cut
    · rw [Decimal.toRat_mul_eq_zero hcut huncut, add_zero]
      exact Decimal.toRat_abs_le full
  exact ⟨value, reductionValue_eq_ok.mpr ⟨item, hitem, full, hfull, cut, hcut, hvalue⟩⟩

/-- A request with one reduction is worth the value of that reduction, rounded to cents. -/
theorem value_eq_ok_of_reduction {amount : Decimal} (hamount : request.amount = none)
    (hreductions : request.reductions = [r]) :
    request.value t = .ok amount ↔
      ∃ value, reductionValue t r = .ok value ∧ Money.round value = amount := by
  have hfirst (value : Decimal) : (0 : Decimal).add value = .ok value := rfl
  unfold RefundRequest.value
  rw [hamount, hreductions]
  simp only [List.foldlM_cons, List.foldlM_nil, addReduction, bind_eq_ok, pure_eq_ok,
    liftOverflow_eq_ok, exists_eq_right, hfirst, Except.ok.injEq]

end

variable {t' : Transaction} {amount : Decimal}

/-- Units asked for are worth their full price, rounded to cents. -/
theorem Names.value_units {itemId : String} {item : TransactionItem} {units : UInt32}
    (hnames : request.Names t' none [⟨itemId, units, 0⟩]) (hitem : t.item? itemId = some item)
    (hunits : units ≤ item.quantity) (h : request.value t = .ok amount) :
    ∃ total : Decimal, total.Stores (units.toNat * item.unitPrice.toRat) ∧
      amount = Money.round total := by
  obtain ⟨value, hvalue, hround⟩ :=
    (value_eq_ok_of_reduction hnames.amount_eq hnames.reductions_eq).mp h
  have hmin : min units item.quantity = units := if_pos hunits
  have hstores := reductionValue_full hitem (by simp) hvalue
  exact ⟨value, hmin ▸ hstores, hround.symm⟩

/-- A part of a line item is worth the cut on every unit, rounded to cents. -/
theorem Names.value_cut {itemId : String} {item : TransactionItem} {priceCut : Decimal}
    (hnames : request.Names t' none [⟨itemId, 0, priceCut⟩]) (hitem : t.item? itemId = some item)
    (h : request.value t = .ok amount) :
    ∃ total : Decimal, total.Stores (item.quantity.toNat * priceCut.toRat) ∧
      amount = Money.round total := by
  obtain ⟨value, hvalue, hround⟩ :=
    (value_eq_ok_of_reduction hnames.amount_eq hnames.reductions_eq).mp h
  obtain ⟨cut, hcut, hsame⟩ := reductionValue_cut hitem hvalue
  have hstores := Decimal.mul_stores hcut
  rw [Decimal.toRat_ofUInt32] at hstores
  exact ⟨value, hstores.congr hsame, hround.symm⟩

/-- A plain amount is worth itself, rounded to cents; it was rounded before already. -/
theorem Names.value_eq {asked : Decimal}
    (hnames : request.Names t' (some (Money.round asked)) []) :
    request.value t = .ok (Money.round asked) := by
  unfold RefundRequest.value
  rw [hnames.amount_eq]
  exact congrArg Except.ok (Money.round_of_scale_le (Money.round_scale_le asked))

end RefundRequest
end ShopPayments
