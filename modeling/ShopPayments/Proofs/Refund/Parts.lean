import ShopPayments.Proofs.Decimal.Quotient
import ShopPayments.Proofs.Gateway.Booking
import ShopPayments.Proofs.Refund.Requests

/-!
# A part of a line item moves what was asked for

A request for part of the value of a line item names no amount: it carries the quotient of the
amount by the quantity, rounded to the digits that fit, and the gateway multiplies that quotient by
the quantity again.  Both roundings together move the product by less than a thousandth of the
currency unit (`count_mul_divCount_near`), so rounding it to cents gives the amount back, whatever
the quantity is.
-/

namespace ShopPayments

namespace Decimal

variable {a : Decimal} {count : ℕ}

/-- The quotient of an amount by a count of 32 bits gives the amount back when it is multiplied by
the count, but for what the quotient has no digits for. -/
theorem abs_count_mul_divCount_sub_le (hcount : 0 < count) (hsize : count < UInt32.size)
    (ha : 0 ≤ a.toRat) :
    |count * (a.divCount count hcount).toRat - a.toRat| ≤ 1 / 10 ^ 18 + a.toRat / 10 ^ 27 := by
  have hpos : (0 : ℚ) < count := by exact_mod_cast hcount
  have hcast : (count : ℚ) ≤ UInt32.size := by exact_mod_cast hsize.le
  have herror := abs_divCount_sub_le hcount ha
  have hplaces : (UInt32.size : ℚ) / 10 ^ maxScale ≤ 1 / 10 ^ 18 := by
    norm_num [UInt32.size, maxScale]
  have hshare : (10 : ℚ) / magnitudeBound ≤ 1 / 10 ^ 27 := by norm_num [magnitudeBound]
  calc
    |count * (a.divCount count hcount).toRat - a.toRat|
        = count * |(a.divCount count hcount).toRat - a.toRat / count| := by
      rw [← abs_of_pos hpos, ← abs_mul, mul_sub, abs_of_pos hpos, mul_div_cancel₀ _ hpos.ne']
    _ ≤ count * tolerance (a.toRat / count) := by gcongr
    _ = count / 10 ^ maxScale + a.toRat * (10 / magnitudeBound) := by
      unfold tolerance
      field_simp
    _ ≤ UInt32.size / 10 ^ maxScale + a.toRat * (1 / 10 ^ 27) :=
      add_le_add (by gcongr) (mul_le_mul_of_nonneg_left hshare ha)
    _ ≤ 1 / 10 ^ 18 + a.toRat / 10 ^ 27 := by
      rw [mul_one_div]
      exact add_le_add_left hplaces _

/-- Of a small amount, less than a thousandth is lost. -/
theorem count_mul_divCount_near (hcount : 0 < count) (hsize : count < UInt32.size)
    (ha : 0 ≤ a.toRat) (hsmall : a.toRat < 10 ^ 15) :
    |count * (a.divCount count hcount).toRat - a.toRat| ≤ 1 / 1000 := by
  have herror := abs_count_mul_divCount_sub_le hcount hsize ha
  norm_num at herror hsmall ⊢
  linarith

end Decimal

namespace RefundRequest

variable {t t' : Transaction} {request : RefundRequest} {itemId : String} {item : TransactionItem}

/-- A cut is priced if the cut on every unit has room. -/
theorem Names.exists_value_cut {priceCut : Decimal}
    (hnames : request.Names t' none [⟨itemId, 0, priceCut⟩]) (hitem : t.item? itemId = some item)
    (hroom : |item.quantity.toNat * priceCut.toRat| ≤ Decimal.magnitudeBound - 1) :
    ∃ amount, request.value t = .ok amount := by
  have hmin : min 0 item.quantity = 0 :=
    if_pos (UInt32.le_iff_toNat_le.mpr (Nat.zero_le _))
  have hbound : (0 : ℚ) ≤ Decimal.magnitudeBound - 1 := by norm_num [Decimal.magnitudeBound]
  obtain ⟨value, hvalue⟩ : ∃ value, reductionValue t ⟨itemId, 0, priceCut⟩ = .ok value :=
    exists_reductionValue hitem (by simpa [hmin] using hbound) (by simpa [hmin] using hroom)
      (.inl (by simp [hmin]))
  exact ⟨Money.round value,
    (value_eq_ok_of_reduction hnames.amount_eq hnames.reductions_eq).mpr ⟨value, hvalue, rfl⟩⟩

/-- A request for a positive part of a line item, in whole cents, moves exactly that amount,
although all it carries is the rounded quotient of the amount by the quantity. -/
theorem value_of_ofPart (t : Transaction) (token itemId : String) (a : Decimal)
    (hpositive : 0 < a.toRat) (hsmall : a.toRat < 10 ^ 15) (hcents : Money.IsCents a.toRat)
    (request : RefundRequest) (h : ofPart t token itemId a = .ok (some request)) :
    ∃ item, ∃ hquantity : 0 < item.quantity.toNat, t.item? itemId = some item ∧
      request.amount = none ∧
      request.reductions = [⟨itemId, 0, a.divCount item.quantity.toNat hquantity⟩] ∧
      ∃ moved, request.value t = .ok moved ∧ moved.toRat = a.toRat := by
  obtain ⟨item, -, hquantity, hitem, -, -, hnames⟩ := names_of_ofPart h
  have hnear := Decimal.count_mul_divCount_near hquantity item.quantity.toNat_lt hpositive.le hsmall
  have habs : |a.toRat| < 10 ^ 15 := by rwa [abs_of_pos hpositive]
  have hroom : |item.quantity.toNat * (a.divCount item.quantity.toNat hquantity).toRat| ≤
      Decimal.magnitudeBound - 1 := by
    rw [abs_of_nonneg (mul_nonneg (by positivity) (Decimal.divCount_nonneg hquantity hpositive.le))]
    have hupper := (abs_le.mp hnear).2
    norm_num [Decimal.magnitudeBound]
    linarith
  obtain ⟨moved, hmoved⟩ := hnames.exists_value_cut hitem hroom
  obtain ⟨total, htotal, rfl⟩ := hnames.value_cut hitem hmoved
  exact ⟨item, hquantity, hitem, hnames.amount_eq, hnames.reductions_eq, _, hmoved,
    Money.toRat_round_of_stores htotal hcents habs hnear⟩

/-- Seven hats of ten each. -/
def sevenHats : Transaction :=
  { hatAndSock with items := [{ hat with quantity := 7, amount := .ofUInt32 70 }] }

/-- Nine and ninety-nine hundredths, of which a seventh has no end. -/
def nineNinetyNine : Decimal := ⟨false, 999, 2, by decide, by decide⟩

theorem toRat_nineNinetyNine : nineNinetyNine.toRat = 999 / 100 := by
  norm_num [Decimal.toRat_eq, Decimal.mantissa, nineNinetyNine]

/-- Asking for part of seven hats. -/
theorem value_of_ofPart_sevenHats :
    0 < nineNinetyNine.toRat ∧ nineNinetyNine.toRat < 10 ^ 15 ∧
      Money.IsCents nineNinetyNine.toRat ∧
      ∃ request, ofPart sevenHats "1" "hat" nineNinetyNine = .ok (some request) ∧
        ∃ moved, request.value sevenHats = .ok moved ∧
          moved.toRat = nineNinetyNine.toRat := by
  have hpositive : 0 < nineNinetyNine.toRat := by norm_num [toRat_nineNinetyNine]
  have hsmall : nineNinetyNine.toRat < 10 ^ 15 := by norm_num [toRat_nineNinetyNine]
  have hcents : Money.IsCents nineNinetyNine.toRat := Money.isCents_of_scale_le (by decide)
  refine ⟨hpositive, hsmall, hcents, _, rfl, ?_⟩
  obtain ⟨-, -, -, -, -, hmoved⟩ :=
    value_of_ofPart sevenHats "1" "hat" nineNinetyNine hpositive hsmall hcents _ rfl
  exact hmoved

end RefundRequest
end ShopPayments
