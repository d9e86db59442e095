import ShopPayments.Proofs.Decimal.Tolerance
import ShopPayments.Proofs.Refund.Requests

/-!
# What units cost

A request for units of a line item moves their full price, rounded to cents.  Prices in whole cents
are moved exactly, any other one up to half a cent, and what digits leave out of the product is far
below that.
-/

namespace ShopPayments

variable {price full : Decimal} {units : UInt32}

/-- The price of units in cents, and nothing where it has no room. -/
def unitsPrice (price : Decimal) (units : UInt32) : ℚ :=
  match (Decimal.ofUInt32 units).mul price with
  | .ok full => (Money.round full).toRat
  | .error _ => 0

theorem unitsPrice_of_mul (h : (Decimal.ofUInt32 units).mul price = .ok full) :
    unitsPrice price units = (Money.round full).toRat := by
  rw [unitsPrice, h]

theorem unitsPrice_isCents (price : Decimal) (units : UInt32) :
    Money.IsCents (unitsPrice price units) := by
  unfold unitsPrice
  split
  · exact Money.round_isCents _
  · exact ⟨0, by simp⟩

theorem stores_of_mul_units (h : (Decimal.ofUInt32 units).mul price = .ok full) :
    full.Stores (units.toNat * price.toRat) := by
  rw [← Decimal.toRat_ofUInt32]
  exact Decimal.mul_stores h

theorem unitsPrice_nonneg (hprice : 0 ≤ price.toRat) (units : UInt32) :
    0 ≤ unitsPrice price units := by
  unfold unitsPrice
  split
  next full h => exact Money.round_nonneg ((stores_of_mul_units h).nonneg (by positivity))
  next => exact le_rfl

/-- More units are not priced lower. -/
theorem exists_mul_units_le {more : UInt32} (hprice : 0 ≤ price.toRat)
    (hle : units.toNat ≤ more.toNat) (hroom : more.toNat * price.toRat ≤ Decimal.magnitudeBound - 1)
    (hfull : (Decimal.ofUInt32 more).mul price = .ok full) :
    ∃ part, (Decimal.ofUInt32 units).mul price = .ok part ∧ part ≤ full := by
  have hcast : (units.toNat : ℚ) ≤ more.toNat := by exact_mod_cast hle
  have hmono : units.toNat * price.toRat ≤ more.toNat * price.toRat := by gcongr
  obtain ⟨part, hpart⟩ : ∃ part, (Decimal.ofUInt32 units).mul price = .ok part := by
    apply Decimal.exists_mul
    rw [Decimal.toRat_ofUInt32, abs_of_nonneg (by positivity)]
    exact hmono.trans hroom
  refine ⟨part, hpart, Decimal.le_iff_toRat_le.mpr ?_⟩
  exact (stores_of_mul_units hpart).mono (stores_of_mul_units hfull) hmono

/-! ## Rounding -/

/-- A price whose cents have room has room for its own cents. -/
theorem room_of_unitsPrice (h : (Decimal.ofUInt32 units).mul price = .ok full)
    (hroom : unitsPrice price units * 100 < Decimal.magnitudeBound) :
    units.toNat * price.toRat * 100 < Decimal.magnitudeBound := by
  -- The smallest quantity without room for its cents is kept with one place, and rounded up.
  let least : Decimal := ⟨false, 7922816251426433759354395034, 1, by decide, by decide⟩
  have hstores : least.Stores (Decimal.magnitudeBound / 100) :=
    ⟨Decimal.magnitudeBound, 2, least, by norm_num, by decide +kernel, rfl⟩
  have hleast : (Money.round least).toRat = 7922816251426433759354395034 / 10 := by
    rw [Money.toRat_round_of_isCents (Money.isCents_of_scale_le (by decide))]
    norm_num [Decimal.toRat_eq, Decimal.mantissa, least]
  by_contra hlarge
  have hle : least.toRat ≤ full.toRat := by
    apply hstores.mono (stores_of_mul_units h)
    rw [div_le_iff₀ (by norm_num)]
    exact not_lt.mp hlarge
  have hround := Money.round_mono hle
  rw [hleast, ← unitsPrice_of_mul h] at hround
  norm_num [Decimal.magnitudeBound] at hroom
  linarith

/-- A price in whole cents is moved exactly. -/
theorem unitsPrice_of_isCents (h : (Decimal.ofUInt32 units).mul price = .ok full)
    (hprice : 0 ≤ price.toRat) (hcents : Money.IsCents price.toRat)
    (hroom : units.toNat * price.toRat * 100 < Decimal.magnitudeBound) :
    unitsPrice price units = units.toNat * price.toRat := by
  have hproduct := hcents.natCast_mul units.toNat
  have hexact : full.toRat = units.toNat * price.toRat := by
    apply (stores_of_mul_units h).toRat_eq_of_isCents hproduct
    rwa [abs_of_nonneg (by positivity)]
  rw [unitsPrice_of_mul h, Money.toRat_round_of_isCents (hexact ▸ hproduct), hexact]

/-- Any other price is moved up to half a cent. -/
theorem abs_unitsPrice_sub_le (h : (Decimal.ofUInt32 units).mul price = .ok full)
    (hprice : 0 ≤ price.toRat)
    (hroom : units.toNat * price.toRat * 100 < Decimal.magnitudeBound) :
    |unitsPrice price units - units.toNat * price.toRat| ≤
      1 / 200 + 3 * (1 + units.toNat * price.toRat) / 10 ^ 28 := by
  have hnonneg : 0 ≤ units.toNat * price.toRat := by positivity
  have hkept := (stores_of_mul_units h).abs_sub_le_tolerance (by
    rw [abs_of_nonneg hnonneg]
    norm_num [Decimal.magnitudeBound] at hroom ⊢
    linarith)
  have hround := Money.abs_sub_round_le full
  rw [abs_sub_comm] at hround
  have hsum := abs_sub_le (Money.round full).toRat full.toRat (units.toNat * price.toRat)
  rw [abs_of_nonneg hnonneg] at hkept
  rw [unitsPrice_of_mul h]
  unfold Decimal.tolerance at hkept
  norm_num [Decimal.magnitudeBound, Decimal.maxScale] at hkept ⊢
  linarith

/-! ## Parts -/

/-- The units of parts, in total. -/
def totalUnits (parts : List UInt32) : ℕ := (parts.map (·.toNat)).sum

/-- The prices of parts, in total, each rounded on its own. -/
def partsPrice (price : Decimal) (parts : List UInt32) : ℚ := (parts.map (unitsPrice price)).sum

@[simp]
theorem totalUnits_nil : totalUnits [] = 0 := rfl

@[simp]
theorem totalUnits_cons (first : UInt32) (rest : List UInt32) :
    totalUnits (first :: rest) = first.toNat + totalUnits rest := rfl

@[simp]
theorem partsPrice_nil (price : Decimal) : partsPrice price [] = 0 := rfl

@[simp]
theorem partsPrice_cons (price : Decimal) (first : UInt32) (rest : List UInt32) :
    partsPrice price (first :: rest) = unitsPrice price first + partsPrice price rest := rfl

variable {parts : List UInt32}

theorem toNat_le_totalUnits (h : units ∈ parts) : units.toNat ≤ totalUnits parts :=
  List.le_sum_of_mem (List.mem_map_of_mem h)

theorem length_le_totalUnits (h : ∀ units ∈ parts, 0 < units.toNat) :
    parts.length ≤ totalUnits parts := by
  have hone : ∀ count ∈ parts.map (·.toNat), 1 ≤ count := List.forall_mem_map.mpr h
  have hlength := List.length_le_sum_of_one_le _ hone
  rwa [List.length_map] at hlength

theorem partsPrice_isCents (price : Decimal) (parts : List UInt32) :
    Money.IsCents (partsPrice price parts) := by
  induction parts with
  | nil => exact ⟨0, by simp⟩
  | cons first rest ih => exact (unitsPrice_isCents price first).add ih

section Priced

variable (hprice : 0 ≤ price.toRat)
include hprice

theorem partsPrice_nonneg (parts : List UInt32) : 0 ≤ partsPrice price parts := by
  apply List.sum_nonneg
  intro x hx
  obtain ⟨units, -, rfl⟩ := List.mem_map.mp hx
  exact unitsPrice_nonneg hprice units

variable (hpriced : ∀ units ∈ parts, ∃ full, (Decimal.ofUInt32 units).mul price = .ok full)
  (hroom : totalUnits parts * price.toRat * 100 < Decimal.magnitudeBound)
include hpriced hroom

/-- Parts of a price in whole cents are moved exactly. -/
theorem partsPrice_of_isCents (hcents : Money.IsCents price.toRat) :
    partsPrice price parts = totalUnits parts * price.toRat := by
  induction parts with
  | nil => simp
  | cons first rest ih =>
    obtain ⟨full, hfull⟩ := hpriced first List.mem_cons_self
    rw [totalUnits_cons, Nat.cast_add, add_mul] at hroom
    have hfirst : 0 ≤ first.toNat * price.toRat := by positivity
    have hrest : 0 ≤ totalUnits rest * price.toRat := by positivity
    rw [partsPrice_cons, unitsPrice_of_isCents hfull hprice hcents (by linarith),
      ih (fun units hunits ↦ hpriced units (List.mem_cons_of_mem _ hunits)) (by linarith)]
    push_cast [totalUnits_cons]
    ring

/-- The rounding of parts adds up. -/
theorem abs_partsPrice_sub_le :
    |partsPrice price parts - totalUnits parts * price.toRat| ≤
      parts.length / 200 + 3 * (parts.length + totalUnits parts * price.toRat) / 10 ^ 28 := by
  induction parts with
  | nil => simp
  | cons first rest ih =>
    obtain ⟨full, hfull⟩ := hpriced first List.mem_cons_self
    rw [totalUnits_cons, Nat.cast_add, add_mul] at hroom
    have hfirst : 0 ≤ first.toNat * price.toRat := by positivity
    have hrest : 0 ≤ totalUnits rest * price.toRat := by positivity
    have hone := abs_unitsPrice_sub_le hfull hprice (by linarith)
    have hothers := ih (fun units hunits ↦ hpriced units (List.mem_cons_of_mem _ hunits))
      (by linarith)
    calc
      _ = |(unitsPrice price first - first.toNat * price.toRat) +
          (partsPrice price rest - totalUnits rest * price.toRat)| := by
        rw [partsPrice_cons, totalUnits_cons]
        push_cast
        ring_nf
      _ ≤ _ := (abs_add_le _ _).trans (add_le_add hone hothers)
      _ = _ := by
        rw [List.length_cons, totalUnits_cons]
        push_cast
        ring

end Priced

section Whole

variable {whole : UInt32} (hprice : 0 ≤ price.toRat)
  (hfull : (Decimal.ofUInt32 whole).mul price = .ok full)
  (hroom : whole.toNat * price.toRat * 100 < Decimal.magnitudeBound)
  (htotal : totalUnits parts = whole.toNat)
include hprice hfull hroom htotal

theorem exists_mul_of_mem (units : UInt32) (hunits : units ∈ parts) :
    ∃ full, (Decimal.ofUInt32 units).mul price = .ok full := by
  have hle : units.toNat ≤ whole.toNat := htotal ▸ toNat_le_totalUnits hunits
  obtain ⟨part, hpart, -⟩ := exists_mul_units_le hprice hle (by
    norm_num [Decimal.magnitudeBound] at hroom ⊢
    linarith) hfull
  exact ⟨part, hpart⟩

/-- It makes no difference to a price in whole cents whether units are asked for in parts. -/
theorem partsPrice_eq_unitsPrice (hcents : Money.IsCents price.toRat) :
    partsPrice price parts = unitsPrice price whole := by
  have hpriced := exists_mul_of_mem hprice hfull hroom htotal
  rw [partsPrice_of_isCents hprice hpriced (by rwa [htotal]) hcents,
    unitsPrice_of_isCents hfull hprice hcents hroom, htotal]

/-- For any other price every part, and the whole, can make a difference of half a cent. -/
theorem abs_partsPrice_sub_unitsPrice_le :
    |partsPrice price parts - unitsPrice price whole| ≤ (parts.length + 1) / 200 +
      3 * (parts.length + 1 + 2 * (whole.toNat * price.toRat)) / 10 ^ 28 := by
  have hpriced := exists_mul_of_mem hprice hfull hroom htotal
  have hparts := abs_partsPrice_sub_le hprice hpriced (by rwa [htotal])
  have hwhole := abs_unitsPrice_sub_le hfull hprice hroom
  rw [htotal] at hparts
  rw [abs_sub_comm] at hwhole
  have hboth := abs_sub_le (partsPrice price parts) (whole.toNat * price.toRat)
    (unitsPrice price whole)
  linarith

/-- Both are whole cents, so below a size where digits are left out the difference is at most half
as many cents as there are requests. -/
theorem abs_partsPrice_sub_unitsPrice_le_half (hpositive : ∀ units ∈ parts, 0 < units.toNat)
    (hsmall : whole.toNat * price.toRat ≤ 10 ^ 24) :
    |partsPrice price parts - unitsPrice price whole| ≤ ((parts.length + 1) / 2 : ℕ) / 100 := by
  have hlength : (parts.length : ℚ) ≤ 2 ^ 32 := by
    have hle := (length_le_totalUnits hpositive).trans (htotal.trans_le whole.toNat_lt.le)
    exact_mod_cast hle
  have hnear := abs_partsPrice_sub_unitsPrice_le hprice hfull hroom htotal
  apply ((partsPrice_isCents price parts).sub (unitsPrice_isCents price whole)).abs_le_half
  push_cast
  linarith

end Whole

/-! ## Requests -/

namespace RefundRequest

variable {t t' : Transaction} {request : RefundRequest} {itemId : String} {item : TransactionItem}

/-- A request for units that are there can be priced if their price has room, and is worth it in
cents. -/
theorem Names.exists_value_units (hnames : request.Names t' none [⟨itemId, units, 0⟩])
    (hitem : t.item? itemId = some item) (hunits : units ≤ item.quantity)
    (hfull : (Decimal.ofUInt32 units).mul item.unitPrice = .ok full) :
    ∃ amount, request.value t = .ok amount ∧ amount.toRat = unitsPrice item.unitPrice units := by
  have hmin : min units item.quantity = units := if_pos hunits
  have hcut : (Decimal.ofUInt32 (item.quantity - units)).mul 0 = .ok 0 := by
    simp [Decimal.mul, Decimal.isZero_iff_toRat_eq_zero, Decimal.toRat_zero]
  obtain ⟨value, hvalue⟩ : ∃ value, full.add 0 = .ok value := by
    apply Decimal.exists_add
    rw [Decimal.toRat_zero, add_zero]
    exact Decimal.toRat_abs_le full
  have hsame : value.toRat = full.toRat :=
    Decimal.toRat_add_of_right_eq_zero hvalue Decimal.toRat_zero
  have hreduction : reductionValue t ⟨itemId, units, 0⟩ = .ok value := by
    refine reductionValue_eq_ok.mpr ⟨item, hitem, full, ?_, 0, ?_, hvalue⟩
    · rwa [hmin]
    · rwa [hmin]
  refine ⟨Money.round value, ?_, ?_⟩
  · exact (value_eq_ok_of_reduction hnames.amount_eq hnames.reductions_eq).mpr
      ⟨value, hreduction, rfl⟩
  · rw [unitsPrice_of_mul hfull]
    exact le_antisymm (Money.round_mono hsame.le) (Money.round_mono hsame.ge)

end RefundRequest
end ShopPayments
