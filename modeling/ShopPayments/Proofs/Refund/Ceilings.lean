import ShopPayments.Proofs.Decimal.Quotient
import ShopPayments.Proofs.Gateway.Booking
import ShopPayments.Proofs.Refund.Parts
import ShopPayments.Proofs.Refund.Requests

/-!
# What the builder checks bounds what is booked

A request is made only if an amount stays under a ceiling, and the gateway prices the request
anew, by a formula of its own: it clips units to the quantity, multiplies a quotient by the
quantity again, and rounds.  All three kinds of requests are still priced under the ceiling that
was checked (`value_le_ceiling`).  Units beyond the quantity are checked but not priced; a quotient
that is rounded stays below a price that some decimal has; and rounding keeps whole cents apart.
-/

namespace ShopPayments

/-- The value of a line item: its unit price for every unit. -/
def TransactionItem.value (item : TransactionItem) : ℚ :=
  item.unitPrice.toRat * item.quantity.toNat

/-- A price in cents that is not negative, where the value of the line item has room in a decimal
with two places. -/
structure TransactionItem.Exact (item : TransactionItem) : Prop where
  nonneg : 0 ≤ item.unitPrice.toRat
  isCents : Money.IsCents item.unitPrice.toRat
  room : item.value * 100 < Decimal.magnitudeBound

/-! ## Exact prices -/

namespace TransactionItem.Exact

variable {item : TransactionItem} {t t' : Transaction} {request : RefundRequest}
  {amount asked value : Decimal}

theorem value_isCents (h : item.Exact) : Money.IsCents item.value := by
  rw [TransactionItem.value, mul_comm]
  exact h.isCents.natCast_mul _

theorem value_nonneg (h : item.Exact) : 0 ≤ item.value := mul_nonneg h.nonneg (Nat.cast_nonneg _)

/-- The price of units is exact. -/
theorem toRat_eq (h : item.Exact) {units : UInt32} (hunits : units ≤ item.quantity)
    {total : Decimal} (htotal : total.Stores (units.toNat * item.unitPrice.toRat)) :
    total.toRat = item.unitPrice.toRat * units.toNat := by
  have hle : (units.toNat : ℚ) ≤ item.quantity.toNat := by
    exact_mod_cast UInt32.le_iff_toNat_le.mp hunits
  have hnonneg := h.nonneg
  have hroom := h.room
  have hvalue : units.toNat * item.unitPrice.toRat ≤ item.value := by
    rw [TransactionItem.value, mul_comm]
    exact mul_le_mul_of_nonneg_left hle hnonneg
  rw [mul_comm]
  apply htotal.toRat_eq_of_isCents (h.isCents.natCast_mul _)
  rw [abs_of_nonneg (by positivity)]
  linarith

theorem toRat_value_units (h : item.Exact) {units : UInt32}
    (hnames : request.Names t' none [⟨item.uniqueId, units, 0⟩])
    (hitem : t.item? item.uniqueId = some item) (hunits : units ≤ item.quantity)
    (hvalue : request.value t = .ok amount) :
    amount.toRat = item.unitPrice.toRat * units.toNat := by
  obtain ⟨total, htotal, hround⟩ := hnames.value_units hitem hunits hvalue
  have hprice := h.toRat_eq hunits htotal
  have hcents : Money.IsCents total.toRat := by
    rw [hprice, mul_comm]
    exact h.isCents.natCast_mul _
  rw [hround, Money.toRat_round_of_isCents hcents, hprice]

/-- The value of a line item is exact. -/
theorem toRat_value (h : item.Exact)
    (hvalue : item.unitPrice.mul (.ofUInt32 item.quantity) = .ok value) :
    value.toRat = item.value := by
  have hstores := Decimal.mul_stores hvalue
  rw [Decimal.toRat_ofUInt32, mul_comm] at hstores
  exact h.toRat_eq (UInt32.le_refl _) hstores

/-- A part of at most the value cuts the price by at most itself, however the cut is rounded. -/
theorem divCount_le_unitPrice (h : item.Exact) (hquantity : 0 < item.quantity.toNat)
    (hasked : 0 ≤ asked.toRat)
    (hvalue : item.unitPrice.mul (.ofUInt32 item.quantity) = .ok value) (hfits : asked ≤ value) :
    (asked.divCount item.quantity.toNat hquantity).toRat ≤ item.unitPrice.toRat := by
  apply Decimal.divCount_le hquantity hasked
  calc
    asked.toRat ≤ value.toRat := Decimal.le_iff_toRat_le.mp hfits
    _ = item.quantity.toNat * item.unitPrice.toRat := by
      rw [h.toRat_value hvalue, TransactionItem.value, mul_comm]

/-- So the part is priced, and it stays within the value. -/
theorem exists_value_part (h : item.Exact) (hquantity : 0 < item.quantity.toNat)
    (hnames : request.Names t' none
      [⟨item.uniqueId, 0, asked.divCount item.quantity.toNat hquantity⟩])
    (hitem : t.item? item.uniqueId = some item) (hasked : 0 ≤ asked.toRat)
    (hwhole : item.unitPrice.mul (.ofUInt32 item.quantity) = .ok value) (hfits : asked ≤ value) :
    ∃ amount, request.value t = .ok amount := by
  have hcut := Decimal.divCount_nonneg hquantity hasked
  have hprice := h.divCount_le_unitPrice hquantity hasked hwhole hfits
  have hbound := (abs_le.mp (Decimal.toRat_abs_le value)).2
  apply hnames.exists_value_cut hitem
  rw [abs_of_nonneg (by positivity)]
  calc
    item.quantity.toNat * (asked.divCount item.quantity.toNat hquantity).toRat
        ≤ item.quantity.toNat * item.unitPrice.toRat := by gcongr
    _ = value.toRat := by rw [h.toRat_value hwhole, TransactionItem.value, mul_comm]
    _ ≤ Decimal.magnitudeBound - 1 := hbound

theorem toRat_value_part (h : item.Exact) (hquantity : 0 < item.quantity.toNat)
    (hnames : request.Names t' none
      [⟨item.uniqueId, 0, asked.divCount item.quantity.toNat hquantity⟩])
    (hitem : t.item? item.uniqueId = some item) (hasked : 0 ≤ asked.toRat)
    (hwhole : item.unitPrice.mul (.ofUInt32 item.quantity) = .ok value) (hfits : asked ≤ value)
    (hvalue : request.value t = .ok amount) :
    0 ≤ amount.toRat ∧ amount.toRat ≤ item.value := by
  obtain ⟨total, htotal, hround⟩ := hnames.value_cut hitem hvalue
  have hcut := Decimal.divCount_nonneg hquantity hasked
  have hprice := h.divCount_le_unitPrice hquantity hasked hwhole hfits
  have hexact := h.toRat_value hwhole
  have hle : total.toRat ≤ value.toRat := by
    apply htotal.ge_of_ge
    rw [hexact, TransactionItem.value, mul_comm]
    exact mul_le_mul_of_nonneg_right hprice (Nat.cast_nonneg _)
  rw [hround]
  refine ⟨Money.round_nonneg (htotal.nonneg (by positivity)), ?_⟩
  have hcents : Money.IsCents value.toRat := by
    rw [hexact]
    exact h.value_isCents
  rw [← hexact, ← Money.toRat_round_of_isCents hcents]
  exact Money.round_mono hle

end TransactionItem.Exact

/-- A price in cents, of a size at which any count of units has an exact price. -/
structure Money.IsPrice (x : ℚ) : Prop where
  isCents : IsCents x
  abs_lt : |x| < 10 ^ 12

namespace Money.IsPrice

variable {x : ℚ}

theorem hundredths_mul_lt (h : IsPrice x) (units : UInt32) :
    |units.toNat * x| * 100 < Decimal.magnitudeBound := by
  have hunits : (units.toNat : ℚ) ≤ UInt32.size := by exact_mod_cast units.toNat_lt.le
  calc
    |units.toNat * x| * 100 = units.toNat * |x| * 100 := by rw [abs_mul, Nat.abs_cast]
    _ ≤ UInt32.size * 10 ^ 12 * 100 := by
      gcongr
      exact h.abs_lt.le
    _ < Decimal.magnitudeBound := by norm_num [UInt32.size, Decimal.magnitudeBound]

theorem abs_mul_le (h : IsPrice x) (units : UInt32) :
    |units.toNat * x| ≤ Decimal.magnitudeBound - 1 := by
  have hroom := h.hundredths_mul_lt units
  have hnonneg := abs_nonneg (units.toNat * x)
  norm_num [Decimal.magnitudeBound] at hroom ⊢
  linarith

theorem toRat_eq (h : IsPrice x) {units : UInt32} {d : Decimal} (hd : d.Stores (units.toNat * x)) :
    d.toRat = units.toNat * x :=
  hd.toRat_eq_of_isCents (h.isCents.natCast_mul _) (h.hundredths_mul_lt units)

theorem exact {item : TransactionItem} (h : IsPrice item.unitPrice.toRat)
    (hnonneg : 0 ≤ item.unitPrice.toRat) : item.Exact where
  nonneg := hnonneg
  isCents := h.isCents
  room := by
    have hroom := h.hundredths_mul_lt item.quantity
    rwa [abs_of_nonneg (by positivity), mul_comm (item.quantity.toNat : ℚ)] at hroom

end Money.IsPrice

namespace RefundRequest

variable {t : Transaction} {token itemId : String} {request : RefundRequest}

/-! ## Units -/

/-- The units that are priced when units are asked for: no more than there are, and all of them
if none are. -/
def pricedUnits (item : TransactionItem) (units : UInt32) : UInt32 :=
  if units = 0 then item.quantity else min units item.quantity

theorem min_unitsReduction (item : TransactionItem) (units : UInt32) :
    min (unitsReduction item units).units item.quantity = pricedUnits item units := by
  unfold unitsReduction pricedUnits
  split
  · exact if_pos (UInt32.le_refl _)
  · rfl

/-- Either no unit stays or those that do are not cut. -/
theorem cut_unitsReduction (item : TransactionItem) (units : UInt32) :
    ((item.quantity - pricedUnits item units).toNat : ℚ) *
      (unitsReduction item units).priceCut.toRat = 0 := by
  unfold unitsReduction pricedUnits
  split <;> simp

/-- At least as many units are checked as are priced. -/
theorem pricedUnits_le (item : TransactionItem) (units : UInt32) :
    (pricedUnits item units).toNat ≤ (unitsReduction item units).units.toNat := by
  rw [← min_unitsReduction, ← UInt32.le_iff_toNat_le]
  generalize (unitsReduction item units).units = checked
  change (if checked ≤ item.quantity then checked else item.quantity) ≤ checked
  split
  · exact UInt32.le_refl _
  next hmore => exact (UInt32.le_total _ _).resolve_left hmore

/-- A request for units of a line item is worth the units there are, and at most what was
authorized. -/
theorem value_of_ofUnits {units : UInt32}
    (hauthorized : 0 ≤ t.authorized.toRat)
    (hprices : ∀ item ∈ t.items, Money.IsPrice item.unitPrice.toRat)
    (h : ofUnits t token itemId units = .ok (some request)) :
    ∃ item amount, t.item? itemId = some item ∧ request.value t = .ok amount ∧
      amount.toRat = (pricedUnits item units).toNat * item.unitPrice.toRat ∧
      amount ≤ t.authorized := by
  obtain ⟨item, hitem, checked, hchecked, -, hle, hbuilt⟩ := ofUnits_eq_ok.mp h
  have hprice := hprices item (List.mem_of_find?_eq_some hitem)
  have hnames := names_of_forTransaction hbuilt
  have hid : (unitsReduction item units).item = itemId := by
    rw [← Transaction.uniqueId_of_item? hitem]
    unfold unitsReduction
    split <;> rfl
  have hpriced := min_unitsReduction item units
  have huncut := cut_unitsReduction item units
  rw [← hpriced] at huncut
  obtain ⟨value, hvalue⟩ : ∃ value, reductionValue t (unitsReduction item units) = .ok value :=
    exists_reductionValue (hid ▸ hitem) (hprice.abs_mul_le _)
      (by rw [huncut, abs_zero]; norm_num [Decimal.magnitudeBound]) (.inr huncut)
  have hexact : value.toRat = (pricedUnits item units).toNat * item.unitPrice.toRat := by
    have hstores := reductionValue_full (hid ▸ hitem) huncut hvalue
    rw [hpriced] at hstores
    exact hprice.toRat_eq hstores
  have hround : (Money.round value).toRat = value.toRat :=
    Money.toRat_round_of_isCents (hexact ▸ hprice.isCents.natCast_mul _)
  refine ⟨item, Money.round value, hitem,
    (value_eq_ok_of_reduction hnames.amount_eq hnames.reductions_eq).mpr ⟨value, hvalue, rfl⟩,
    hround.trans hexact, ?_⟩
  rw [Decimal.le_iff_toRat_le, hround, hexact]
  rcases le_total 0 item.unitPrice.toRat with hnonneg | hnegative
  · have hstores := Decimal.mul_stores hchecked
    rw [Decimal.toRat_ofUInt32] at hstores
    have hunits : ((pricedUnits item units).toNat : ℚ) ≤
        (unitsReduction item units).units.toNat := by
      exact_mod_cast pricedUnits_le item units
    calc
      (pricedUnits item units).toNat * item.unitPrice.toRat
          ≤ (unitsReduction item units).units.toNat * item.unitPrice.toRat := by gcongr
      _ = checked.toRat := (hprice.toRat_eq hstores).symm
      _ ≤ t.authorized.toRat := Decimal.le_iff_toRat_le.mp hle
  · exact (mul_nonpos_of_nonneg_of_nonpos (Nat.cast_nonneg _) hnegative).trans hauthorized

/-! ## Amounts and parts -/

/-- A plain amount below whole cents is rounded to at most those. -/
theorem value_of_ofAmount {a : Decimal} (hauthorized : Money.IsCents t.authorized.toRat)
    (h : ofAmount t token a = .ok (some request)) :
    ∃ amount, request.value t = .ok amount ∧ amount ≤ t.authorized := by
  obtain ⟨-, hle, hbuilt⟩ := ofAmount_eq_ok.mp h
  refine ⟨_, (names_of_forTransaction hbuilt).value_eq, ?_⟩
  rw [Decimal.le_iff_toRat_le] at hle ⊢
  rw [← Money.toRat_round_of_isCents hauthorized]
  exact Money.round_mono hle

/-- A positive part of a line item, of any precision, is worth at most the line item. -/
theorem value_of_ofPart_le {a : Decimal} (hpositive : 0 < a.toRat)
    (hprices : ∀ item ∈ t.items, Money.IsPrice item.unitPrice.toRat)
    (h : ofPart t token itemId a = .ok (some request)) :
    ∃ item amount, t.item? itemId = some item ∧ request.value t = .ok amount ∧
      amount.toRat ≤ item.value := by
  obtain ⟨item, value, hquantity, hitem, hvalue, hle, hnames⟩ := names_of_ofPart h
  have hprice := hprices item (List.mem_of_find?_eq_some hitem)
  have hnonneg : 0 ≤ item.unitPrice.toRat := by
    have hstores := Decimal.mul_stores hvalue
    rw [Decimal.toRat_ofUInt32, mul_comm] at hstores
    have hworth : 0 < item.quantity.toNat * item.unitPrice.toRat := by
      rw [← hprice.toRat_eq hstores]
      exact hpositive.trans_le (Decimal.le_iff_toRat_le.mp hle)
    exact ((mul_pos_iff_of_pos_left (by exact_mod_cast hquantity)).mp hworth).le
  have hexact := hprice.exact hnonneg
  have hid := Transaction.uniqueId_of_item? hitem
  subst hid
  obtain ⟨amount, hamount⟩ :=
    hexact.exists_value_part hquantity hnames hitem hpositive.le hvalue hle
  obtain ⟨-, hbound⟩ :=
    hexact.toRat_value_part hquantity hnames hitem hpositive.le hvalue hle hamount
  exact ⟨item, amount, hitem, hamount, hbound⟩

/-- **What the builder checks bounds what the gateway books.**  Whatever is asked for, a request
that is made is priced, and for no more than the ceiling that was checked: what was authorized for
units and plain amounts, the value of the line item for a part of it.  Units are worth their full
price, up to the quantity. -/
theorem value_le_ceiling (t : Transaction) (hauthorized : 0 ≤ t.authorized)
    (hauthorizedCents : Money.IsCents t.authorized.toRat)
    (hprices : ∀ item ∈ t.items, Money.IsCents item.unitPrice.toRat ∧
      |item.unitPrice.toRat| < 10 ^ 12) (token itemId : String) (request : RefundRequest) :
    (∀ units : UInt32, ofUnits t token itemId units = .ok (some request) →
      ∃ item amount, t.item? itemId = some item ∧ request.value t = .ok amount ∧
        amount ≤ t.authorized ∧
        amount.toRat =
          (if units = 0 then item.quantity else min units item.quantity).toNat *
            item.unitPrice.toRat) ∧
    (∀ a, ofAmount t token a = .ok (some request) →
      ∃ amount, request.value t = .ok amount ∧ amount ≤ t.authorized) ∧
    ∀ a, 0 < a → ofPart t token itemId a = .ok (some request) →
      ∃ item amount, t.item? itemId = some item ∧ request.value t = .ok amount ∧
        amount.toRat ≤ item.unitPrice.toRat * item.quantity.toNat := by
  have hprice : ∀ item ∈ t.items, Money.IsPrice item.unitPrice.toRat := by
    intro item hitem
    obtain ⟨hcents, hsmall⟩ := hprices item hitem
    exact ⟨hcents, hsmall⟩
  refine ⟨?_, fun a ↦ value_of_ofAmount hauthorizedCents, ?_⟩
  · intro units h
    obtain ⟨item, amount, hitem, hamount, hexact, hle⟩ :=
      value_of_ofUnits ((Decimal.toRat_nonneg_iff _).mp hauthorized) hprice h
    exact ⟨item, amount, hitem, hamount, hle, hexact⟩
  · intro a hpositive h
    exact value_of_ofPart_le ((Decimal.toRat_pos_iff a).mp hpositive) hprice h

/-- The hat is ten and the sock fifty. -/
theorem hatAndSock_prices : ∀ item ∈ hatAndSock.items, 0 ≤ item.unitPrice ∧
    Money.IsCents item.unitPrice.toRat ∧ item.unitPrice.toRat ≤ 50 := by
  have hten : hat.unitPrice.toRat = 10 := Decimal.toRat_ofUInt32 10
  have hfifty : (Decimal.ofUInt32 50).toRat = 50 := Decimal.toRat_ofUInt32 50
  intro item hitem
  simp only [hatAndSock, List.mem_cons, List.not_mem_nil, or_false] at hitem
  rcases hitem with rfl | rfl
  · exact ⟨by decide, Money.isCents_of_scale_le (by decide), by rw [hten]; norm_num⟩
  · exact ⟨by decide, Money.isCents_of_scale_le (by decide), hfifty.le⟩

/-- Six hats are checked where there is one, and one is priced. -/
theorem value_le_ceiling_hatAndSock :
    ∃ request, ofUnits hatAndSock "1" "hat" 6 = .ok (some request) ∧
      ∃ amount, request.value hatAndSock = .ok amount ∧ amount ≤ hatAndSock.authorized ∧
        amount.toRat = 10 := by
  have hten : hat.unitPrice.toRat = 10 := Decimal.toRat_ofUInt32 10
  have hprices : ∀ item ∈ hatAndSock.items, Money.IsCents item.unitPrice.toRat ∧
      |item.unitPrice.toRat| < 10 ^ 12 := by
    intro item hitem
    obtain ⟨hnonneg, hcents, hle⟩ := hatAndSock_prices item hitem
    rw [abs_of_nonneg ((Decimal.toRat_nonneg_iff _).mp hnonneg)]
    exact ⟨hcents, hle.trans_lt (by norm_num)⟩
  refine ⟨_, rfl, ?_⟩
  obtain ⟨hunits, -, -⟩ := value_le_ceiling hatAndSock (by decide)
    (Money.isCents_of_scale_le (by decide)) hprices "1" "hat" _
  obtain ⟨item, amount, hitem, hamount, hle, hexact⟩ := hunits 6 rfl
  obtain rfl : hat = item := Option.some.inj hitem
  have hone : (if (6 : UInt32) = 0 then hat.quantity else min 6 hat.quantity).toNat = 1 := by
    decide
  rw [hone, hten] at hexact
  exact ⟨amount, hamount, hle, hexact.trans (by norm_num)⟩

end RefundRequest
end ShopPayments
