import ShopPayments.Proofs.Gateway.Batch
import ShopPayments.Proofs.Refund.Anonymous
import ShopPayments.Proofs.Refund.Ceilings
import ShopPayments.Proofs.Refund.Units
import ShopPayments.Refund.Report
import ShopPayments.Refund.Submission

/-!
# The report keeps its promises

The report offers an amount for every line item.  It comes from the units that are left and from
the cuts recorded so far, while a refund of a part is checked against the value of the line item and
against what is left of the transaction, and is priced through a quotient.  As long as no recorded
cut is negative, what the report offers passes both checks, and asking for it books exactly that
(`refundPart_report`).
-/

namespace ShopPayments

/-! ## What is left of one transaction -/

namespace Transaction

variable {t t' : Transaction} {left left' : Decimal}

theorem stores_of_refundableAmount (h : t.refundableAmount = .ok left) :
    ∃ difference : Decimal, difference.Stores (t.captured.toRat - t.refunded.toRat) ∧
      left = Money.round difference := by
  unfold refundableAmount at h
  simp only [bind_eq_ok, pure_eq_ok] at h
  obtain ⟨difference, hdifference, hround⟩ := h
  exact ⟨difference, Decimal.sub_stores hdifference, hround.symm⟩

theorem exists_refundableAmount (hrefunded : 0 ≤ t.refunded.toRat)
    (hcaptured : 0 ≤ t.captured.toRat) : ∃ left, t.refundableAmount = .ok left := by
  have hroom : |t.captured.toRat - t.refunded.toRat| ≤ Decimal.magnitudeBound - 1 := by
    have hcapturedLe := Decimal.toRat_abs_le t.captured
    have hrefundedLe := Decimal.toRat_abs_le t.refunded
    rw [abs_of_nonneg hcaptured] at hcapturedLe
    rw [abs_of_nonneg hrefunded] at hrefundedLe
    rw [abs_le]
    constructor <;> linarith
  obtain ⟨difference, hdifference⟩ := Decimal.exists_sub hroom
  refine ⟨Money.round difference, ?_⟩
  unfold refundableAmount
  rw [hdifference]
  rfl

/-- What is left in whole cents that have room is exact. -/
theorem exists_refundableAmount_toRat (hcaptured : Money.IsCents t.captured.toRat)
    (hrefunded : Money.IsCents t.refunded.toRat)
    (hroom : |t.captured.toRat - t.refunded.toRat| * 100 < Decimal.magnitudeBound) :
    ∃ left, t.refundableAmount = .ok left ∧
      left.toRat = t.captured.toRat - t.refunded.toRat := by
  have hhundred : (10 : ℚ) ^ Money.places = 100 := by norm_num [Money.places]
  obtain ⟨difference, hdifference, hexact⟩ := Decimal.exists_sub_toRat Money.places_le_maxScale
    (Money.isCents_iff_hasPlaces.mp hcaptured) (Money.isCents_iff_hasPlaces.mp hrefunded)
    (hhundred.symm ▸ hroom)
  refine ⟨Money.round difference, ?_, ?_⟩
  · unfold refundableAmount
    rw [hdifference]
    rfl
  · rw [← hexact]
    exact Money.toRat_round_of_isCents (hexact ▸ hcaptured.sub hrefunded)

/-- The more was refunded, the less is left. -/
theorem refundableAmount_antitone (hcaptured : t'.captured = t.captured)
    (hle : t.refunded.toRat ≤ t'.refunded.toRat) (h : t.refundableAmount = .ok left)
    (h' : t'.refundableAmount = .ok left') : left' ≤ left := by
  obtain ⟨difference, hstores, rfl⟩ := stores_of_refundableAmount h
  obtain ⟨difference', hstores', rfl⟩ := stores_of_refundableAmount h'
  rw [Decimal.le_iff_toRat_le]
  apply Money.round_mono
  apply hstores'.mono hstores
  rw [hcaptured]
  exact sub_le_sub_left hle _

theorem refundableAmount_le (hrefunded : 0 ≤ t.refunded.toRat) (h : t.refundableAmount = .ok left) :
    left ≤ Money.round t.captured := by
  obtain ⟨difference, hstores, rfl⟩ := stores_of_refundableAmount h
  rw [Decimal.le_iff_toRat_le]
  apply Money.round_mono
  apply hstores.ge_of_ge
  linarith

end Transaction

/-! ## Recorded cuts -/

theorem toRat_nonneg_of_foldlM_addCut {quantity : UInt32} {reductions : List Reduction}
    {start total : Decimal} (hstart : 0 ≤ start.toRat)
    (hcuts : ∀ r ∈ reductions, 0 ≤ r.priceCut.toRat)
    (h : reductions.foldlM (addCut quantity) start = .ok total) : 0 ≤ total.toRat := by
  induction reductions generalizing start with
  | nil =>
    rw [List.foldlM_nil, pure_eq_ok] at h
    rwa [← h]
  | cons r rest ih =>
    simp only [List.foldlM_cons, addCut, cutValue, bind_eq_ok] at h
    obtain ⟨next, ⟨value, hvalue, hnext⟩, hrest⟩ := h
    have hcut := hcuts r List.mem_cons_self
    have hstores := Decimal.mul_stores hvalue
    rw [Decimal.toRat_ofUInt32] at hstores
    have hnonneg : 0 ≤ value.toRat := hstores.nonneg (by positivity)
    exact ih ((Decimal.add_stores hnext).nonneg (add_nonneg hstart hnonneg))
      (fun r' hr' ↦ hcuts r' (List.mem_cons_of_mem r hr')) hrest

theorem mem_of_mem_reductionsOf {refunds : List Refund} {itemId : String} {r : Reduction}
    (h : r ∈ reductionsOf refunds itemId) : ∃ refund ∈ refunds, r ∈ refund.reductions := by
  obtain ⟨refund, hrefund, hr⟩ := List.mem_flatMap.mp (List.mem_filter.mp h).1
  exact ⟨refund, (List.mem_filter.mp hrefund).1, hr⟩

/-- Cuts that are not negative add up to no less than nothing. -/
theorem toRat_refundedCuts_nonneg {refunds : List Refund} {quantity : UInt32} {itemId : String}
    {cuts : Decimal} (hcuts : ∀ refund ∈ refunds, ∀ r ∈ refund.reductions, 0 ≤ r.priceCut)
    (h : refundedCuts refunds quantity itemId = .ok cuts) : 0 ≤ cuts.toRat := by
  refine toRat_nonneg_of_foldlM_addCut Decimal.toRat_zero.ge (fun r hr ↦ ?_) h
  obtain ⟨refund, hrefund, hmem⟩ := mem_of_mem_reductionsOf hr
  exact (Decimal.toRat_nonneg_iff _).mp (hcuts refund hrefund r hmem)

/-! ## Rows -/

namespace RefundableItem

variable {refunds : List Refund} {left : Decimal} {item : TransactionItem} {row : RefundableItem}

/-- The row of a line item, from the units given back and the cuts. -/
theorem ofItem_eq_ok :
    ofItem refunds left item = .ok row ↔
      ∃ taken, refundedUnits refunds item.uniqueId = .ok taken ∧
        ∃ full, (Decimal.ofUInt32 (unitsLeft item.quantity taken)).mul item.unitPrice = .ok full ∧
          ∃ cuts, refundedCuts refunds item.quantity item.uniqueId = .ok cuts ∧
            ∃ remaining, full.sub cuts = .ok remaining ∧
              { uniqueId := item.uniqueId, name := item.name, quantity := item.quantity
                refundableUnits := unitsLeft item.quantity taken, unitPrice := item.unitPrice
                refundableAmount := (Money.round (remaining.max 0)).min left } = row := by
  unfold ofItem
  simp only [bind_eq_ok, pure_eq_ok]

theorem uniqueId_of_ofItem (h : ofItem refunds left item = .ok row) :
    row.uniqueId = item.uniqueId := by
  obtain ⟨taken, -, full, -, cuts, -, remaining, -, rfl⟩ := ofItem_eq_ok.mp h
  rfl

/-- What can be offered of a line item: whole cents, between nothing and what is left of the
transaction and of the value of the line item. -/
structure Offers (row : RefundableItem) (item : TransactionItem) (left : Decimal) : Prop where
  isCents : Money.IsCents row.refundableAmount.toRat
  nonneg : 0 ≤ row.refundableAmount.toRat
  le_left : row.refundableAmount.toRat ≤ left.toRat
  le_value : row.refundableAmount.toRat ≤ item.value

theorem offers_of_ofItem (h : ofItem refunds left item = .ok row) (hexact : item.Exact)
    (hleft : 0 ≤ left.toRat) (hleftCents : Money.IsCents left.toRat)
    (hcuts : ∀ refund ∈ refunds, ∀ r ∈ refund.reductions, 0 ≤ r.priceCut) :
    row.Offers item left := by
  obtain ⟨taken, -, full, hfull, cuts, hcutsEq, remaining, hremaining, rfl⟩ := ofItem_eq_ok.mp h
  have hunits := unitsLeft_le item.quantity taken
  have hfullStores := Decimal.mul_stores hfull
  rw [Decimal.toRat_ofUInt32] at hfullStores
  have hfullLe : full.toRat ≤ item.value := by
    rw [hexact.toRat_eq hunits hfullStores, TransactionItem.value]
    have hle : ((unitsLeft item.quantity taken).toNat : ℚ) ≤ item.quantity.toNat := by
      exact_mod_cast UInt32.le_iff_toNat_le.mp hunits
    exact mul_le_mul_of_nonneg_left hle hexact.nonneg
  have hcutsNonneg := toRat_refundedCuts_nonneg hcuts hcutsEq
  have hremainingLe : remaining.toRat ≤ full.toRat :=
    (Decimal.sub_stores hremaining).ge_of_ge (sub_le_self _ hcutsNonneg)
  -- Some decimal has the value, so rounding what remains of it does not exceed it.
  obtain ⟨value, -, hvalue⟩ := Money.exists_toRat_eq_of_isCents hexact.value_isCents
    (by rw [abs_of_nonneg hexact.value_nonneg]; exact hexact.room)
  have hround : (Money.round (remaining.max 0)).toRat ≤ item.value := by
    rw [← hvalue, ← Money.toRat_round_of_isCents (d := value) (hvalue ▸ hexact.value_isCents)]
    apply Money.round_mono
    rw [Decimal.toRat_max, Decimal.toRat_zero, hvalue]
    exact max_le (hremainingLe.trans hfullLe) hexact.value_nonneg
  have hnonneg : 0 ≤ (Money.round (remaining.max 0)).toRat := by
    apply Money.round_nonneg
    rw [Decimal.toRat_max, Decimal.toRat_zero]
    exact le_max_right _ _
  have hmin := Decimal.toRat_min (Money.round (remaining.max 0)) left
  refine ⟨?_, ?_, ?_, ?_⟩ <;> dsimp only <;> rw [hmin]
  · rcases min_choice (Money.round (remaining.max 0)).toRat left.toRat with hfirst | hsecond
    · rw [hfirst]
      exact Money.round_isCents _
    · rwa [hsecond]
  · exact le_min hnonneg hleft
  · exact min_le_right _ _
  · exact (min_le_left _ _).trans hround

variable {t : Transaction}

/-- A positive amount that is offered can be asked for as a part. -/
theorem Offers.exists_ofPart (h : row.Offers item left) (hexact : item.Exact) (hid : 0 < t.id)
    (hstate : t.state = .fulfill) (hitem : t.item? item.uniqueId = some item)
    (hname : 0 < Text.size item.uniqueId) (hpositive : 0 < row.refundableAmount.toRat)
    (token : String) :
    ∃ request, RefundRequest.ofPart t token item.uniqueId row.refundableAmount =
      .ok (some request) := by
  have hworth : 0 < item.value := hpositive.trans_le h.le_value
  have hquantity : 0 < item.quantity.toNat := by
    by_contra hnone
    rw [TransactionItem.value, Nat.eq_zero_of_not_pos hnone, Nat.cast_zero, mul_zero] at hworth
    exact lt_irrefl 0 hworth
  obtain ⟨value, hvalue⟩ : ∃ value, item.unitPrice.mul (.ofUInt32 item.quantity) = .ok value := by
    apply Decimal.exists_mul
    have hroom := hexact.room
    have hvalueEq : item.unitPrice.toRat * (Decimal.ofUInt32 item.quantity).toRat = item.value := by
      rw [Decimal.toRat_ofUInt32, TransactionItem.value]
    rw [hvalueEq, abs_of_nonneg hworth.le]
    norm_num [Decimal.magnitudeBound] at hroom ⊢
    linarith
  obtain ⟨request, hrequest⟩ : ∃ request, RefundRequest.forTransaction t token none
      [⟨item.uniqueId, 0, row.refundableAmount.divCount item.quantity.toNat hquantity⟩] =
        .ok request :=
    RefundRequest.exists_forTransaction_iff.mpr ⟨hid, by simpa using hname⟩
  have hle : row.refundableAmount ≤ value := by
    rw [Decimal.le_iff_toRat_le, hexact.toRat_value hvalue]
    exact h.le_value
  exact ⟨request,
    RefundRequest.ofPart_eq_ok.mpr ⟨item, hitem, hquantity, value, hvalue, hstate, hle, hrequest⟩⟩

end RefundableItem

namespace Gateway

variable {g : Gateway} {space : UInt64} {t : Transaction} {rows : List RefundableItem}

theorem report_eq_ok :
    g.report space t = .ok rows ↔
      ∃ left, t.refundableAmount = .ok left ∧
        List.Forall₂ (fun item row ↦
          RefundableItem.ofItem (g.refundsOf space t.id) left item = .ok row) t.items rows := by
  unfold report Transaction.refundableItems
  simp only [ofOverflow_eq_ok, bind_eq_ok, mapM_eq_ok]

/-- What is offered of a line item is booked when it is asked for. -/
theorem exists_refundPart (ht : g.transaction? space t.id = some t) (hid : 0 < t.id)
    (hstate : t.state = .fulfill) (hsupported : t.supportsRefunds = true) (hbalanced : t.Balanced)
    (hroom : g.sequence.toNat + 1 < UInt64.size) {left : Decimal}
    (hleft : left.toRat = t.captured.toRat - t.refunded.toRat) {item : TransactionItem}
    (hexact : item.Exact) (hitem : t.item? item.uniqueId = some item)
    (hname : 0 < Text.size item.uniqueId) {row : RefundableItem} (hoffers : row.Offers item left)
    (hpositive : 0 < row.refundableAmount) (token : String) :
    ∃ refund after, g.refundPart space t token item.uniqueId ⟨row.refundableAmount, hpositive⟩ =
        .ok (some refund, after) ∧
      refund.amount.toRat = row.refundableAmount.toRat ∧
      after.refundsOf space t.id = g.refundsOf space t.id ++ [refund] := by
  have hpos := (Decimal.toRat_pos_iff _).mp hpositive
  have hsmall : row.refundableAmount.toRat < 10 ^ 15 := by
    have hle := hoffers.le_left
    have hrefunded := hbalanced.refunded_nonneg
    have hcaptured := hbalanced.captured_lt
    linarith
  obtain ⟨request, hrequest⟩ :=
    hoffers.exists_ofPart hexact hid hstate hitem hname hpos token
  obtain ⟨_, _, _, -, -, -, hnames⟩ := RefundRequest.names_of_ofPart hrequest
  obtain ⟨-, -, -, -, -, moved, hmoved, hsame⟩ := RefundRequest.value_of_ofPart t token
    item.uniqueId row.refundableAmount hpos hsmall hoffers.isCents request hrequest
  have hbook := hbalanced.exists_book hsupported hmoved (hsame ▸ hpos.le)
    (by rw [hsame]; linarith [hoffers.le_left]) (g.sequence + 1)
  have hfound : g.transaction? space request.transaction = some t := by
    rw [hnames.transaction_eq]
    exact ht
  obtain ⟨total, refund, after, hcreate, hbooked⟩ := exists_booked_of_book hroom hfound hbook
  refine ⟨refund, after, ?_, ?_, ?_⟩
  · simp only [refundPart, hrequest, submit, hcreate, ok_bind, pure_eq]
  · rw [Except.ok.inj (hbooked.priced.symm.trans hmoved), hsame]
  · rw [hbooked.refundsOf_after, if_pos (by rw [hnames.transaction_eq])]

/-- **The report keeps its promises.**  Every row has the id of its line item and offers between
nothing and what is left of the transaction, and whoever asks for a positive amount that is offered
gets a refund of exactly that amount. -/
theorem refundPart_report (g : Gateway) (space : UInt64) (t : Transaction) (token : String)
    (ht : g.transaction? space t.id = some t) (hid : 0 < t.id) (hstate : t.state = .fulfill)
    (hsupported : t.supportsRefunds = true)
    (hnames : ∀ item ∈ t.items, item.uniqueId ≠ "")
    (hdistinct : (t.items.map (·.uniqueId)).Nodup)
    (hprices : ∀ item ∈ t.items, 0 ≤ item.unitPrice ∧ Money.IsCents item.unitPrice.toRat ∧
      item.unitPrice.toRat < 10 ^ 12)
    (hbalanced : t.Balanced)
    (hcuts : ∀ refund ∈ g.refundsOf space t.id, ∀ r ∈ refund.reductions, 0 ≤ r.priceCut)
    (hroom : g.sequence.toNat + 1 < UInt64.size) (rows : List RefundableItem)
    (hrows : g.report space t = .ok rows) :
    ∃ left, t.refundableAmount = .ok left ∧
      rows.map (·.uniqueId) = t.items.map (·.uniqueId) ∧
      ∀ row ∈ rows, 0 ≤ row.refundableAmount ∧ row.refundableAmount ≤ left ∧
        ∀ hpositive : 0 < row.refundableAmount, ∃ refund after,
          g.refundPart space t token row.uniqueId ⟨row.refundableAmount, hpositive⟩ =
              .ok (some refund, after) ∧
            refund.amount.toRat = row.refundableAmount.toRat ∧
            after.refundsOf space t.id = g.refundsOf space t.id ++ [refund] := by
  obtain ⟨left, hleft, hforall⟩ := report_eq_ok.mp hrows
  have hlow := hbalanced.refunded_nonneg
  have hhigh := hbalanced.refunded_le
  have hsmall := hbalanced.captured_lt
  obtain ⟨left', hleft', hexactLeft⟩ := Transaction.exists_refundableAmount_toRat
    hbalanced.captured_isCents hbalanced.refunded_isCents
    (Money.hundredths_lt (by linarith) (by linarith))
  obtain rfl := Except.ok.inj (hleft'.symm.trans hleft)
  refine ⟨left', hleft, ?_, fun row hrow ↦ ?_⟩
  · exact map_eq_of_forall₂ hforall fun item _ row hrow ↦ RefundableItem.uniqueId_of_ofItem hrow
  · obtain ⟨item, hmem, hitemRow⟩ := exists_of_forall₂_of_mem hforall hrow
    obtain ⟨hnonneg, hcents, hprice⟩ := hprices item hmem
    rw [Decimal.toRat_nonneg_iff] at hnonneg
    have hexact : item.Exact :=
      Money.IsPrice.exact ⟨hcents, by rwa [abs_of_nonneg hnonneg]⟩ hnonneg
    have hoffers : row.Offers item left' := RefundableItem.offers_of_ofItem hitemRow hexact
      (by rw [hexactLeft]; linarith)
      (hexactLeft ▸ hbalanced.captured_isCents.sub hbalanced.refunded_isCents) hcuts
    refine ⟨(Decimal.toRat_nonneg_iff _).mpr hoffers.nonneg,
      Decimal.le_iff_toRat_le.mpr hoffers.le_left, fun hpositive ↦ ?_⟩
    rw [RefundableItem.uniqueId_of_ofItem hitemRow]
    exact exists_refundPart ht hid hstate hsupported hbalanced hroom hexactLeft hexact
      (Transaction.item?_of_mem hdistinct hmem) ((Text.size_pos_iff _).mpr (hnames item hmem))
      hoffers hpositive token

/-- Seven hats, of which one unit of the currency was refunded. -/
def cutHats : Transaction :=
  { RefundRequest.sevenHats with
    authorized := .ofUInt32 70, captured := .ofUInt32 70, refunded := .ofUInt32 1 }

/-- It was refunded as a part, by a seventh of it off each hat. -/
def holdingCutHats : Gateway :=
  { holding cutHats with
    refunds := Table.empty.append (1, 42) ⟨1, 1, 42, .successful, .ofUInt32 1, "refund_one",
      [⟨"hat", 0, ⟨false, 1428571428571428571428571429, Decimal.maxScale, by decide,
        Nat.le_refl Decimal.maxScale⟩⟩]⟩
    sequence := 1 }

theorem cutHats_balanced : cutHats.Balanced where
  refunded_nonneg := (Decimal.toRat_nonneg_iff _).mp (by decide)
  refunded_le := Decimal.le_iff_toRat_le.mp (by decide)
  captured_lt := by
    have hseventy : cutHats.captured.toRat = 70 := Decimal.toRat_ofUInt32 70
    rw [hseventy]
    norm_num
  captured_isCents := Money.isCents_of_scale_le (by decide)
  refunded_isCents := Money.isCents_of_scale_le (by decide)

/-- Seven times the cut is not one, but what is offered are whole cents, and it can be had. -/
theorem refundPart_report_cutHats :
    ∃ row, holdingCutHats.report 1 cutHats = .ok [row] ∧ ∃ hpositive refund after,
      holdingCutHats.refundPart 1 cutHats "two" "hat" ⟨row.refundableAmount, hpositive⟩ =
          .ok (some refund, after) ∧
        refund.amount.toRat = 69 := by
  let row : RefundableItem :=
    ⟨"hat", "Hat", 7, 7, .ofUInt32 10, ⟨false, 6900, 2, by decide, by decide⟩⟩
  have hrow : row.refundableAmount.toRat = 69 := by
    norm_num [Decimal.toRat_eq, Decimal.mantissa, row]
  have hten : hat.unitPrice.toRat = 10 := Decimal.toRat_ofUInt32 10
  have hprices : ∀ item ∈ cutHats.items, 0 ≤ item.unitPrice ∧
      Money.IsCents item.unitPrice.toRat ∧ item.unitPrice.toRat < 10 ^ 12 := by
    intro item hitem
    obtain rfl := List.mem_singleton.mp hitem
    exact ⟨by decide, Money.isCents_of_scale_le (by decide), by dsimp only; rw [hten]; norm_num⟩
  obtain ⟨left, -, -, hrows⟩ := refundPart_report holdingCutHats 1 cutHats "two" rfl (by decide)
    rfl rfl (by decide) (by decide) hprices cutHats_balanced (by decide) (by decide) [row]
    (by decide +kernel)
  obtain ⟨-, -, hbooked⟩ := hrows row (List.mem_singleton.mpr rfl)
  obtain ⟨refund, after, hrefund, hamount, -⟩ := hbooked (by decide)
  exact ⟨row, by decide +kernel, by decide, refund, after, hrefund, hamount.trans hrow⟩

end Gateway
end ShopPayments
