import ShopPayments.Proofs.Payload.Items

/-!
# Line items and the total of the order

As long as the total of the order and the amounts have room, their difference is exact.  Without
strict mode the adjustment then brings the line items within half a cent of the total, and in
strict mode a sale is turned down exactly for a difference of half a cent or more.  An order whose
products and shipping taxes add up to its total needs no adjustment in either mode.
-/

namespace ShopPayments
namespace Sale

variable {s : Sale} {items built : List LineItem}

/-- The total of the order and the amounts together stay so small that their sums are exact. -/
def HasRoom (s : Sale) (items : List LineItem) : Prop :=
  |s.order.total.toRat| + amountAbs items < 10 ^ 15

theorem HasRoom.left {more : List LineItem} (h : s.HasRoom (items ++ more)) : s.HasRoom items := by
  have hmore : 0 ≤ amountAbs more := Decimal.sumAbs_nonneg _
  unfold HasRoom at h ⊢
  rw [amountAbs_append] at h
  linarith

theorem hasPlaces_amountSum (hcents : ∀ item ∈ items, item.amount.scale ≤ Money.places) :
    Decimal.HasPlaces Money.places (amountSum items) := by
  apply Decimal.hasPlaces_sumRat
  intro d hd
  obtain ⟨item, hitem, rfl⟩ := List.mem_map.mp hd
  exact (Decimal.hasPlaces_scale item.amount).mono (hcents item hitem)

/-- The difference between the total and the sum of amounts in cents is exact if it has room. -/
theorem exists_difference {places : ℕ} (hplaces : places ≤ Decimal.maxScale)
    (hmore : Money.places ≤ places) (htotal : Decimal.HasPlaces places s.order.total.toRat)
    (hcents : ∀ item ∈ built, item.amount.scale ≤ Money.places)
    (hsum : amountAbs built * 10 ^ Money.places < Decimal.magnitudeBound)
    (hroom : |s.order.total.toRat - amountSum built| * 10 ^ places < Decimal.magnitudeBound) :
    ∃ total difference, itemTotal built = .ok total ∧ s.order.total.sub total = .ok difference ∧
      difference.toRat = s.order.total.toRat - amountSum built := by
  obtain ⟨total, hitems, htotalRat⟩ := exists_itemTotal hcents hsum
  rw [← htotalRat] at hroom ⊢
  have hsumPlaces : Decimal.HasPlaces places total.toRat := by
    rw [htotalRat]
    exact (hasPlaces_amountSum hcents).mono hmore
  obtain ⟨difference, hsub, hdifference⟩ :=
    Decimal.exists_sub_toRat hplaces htotal hsumPlaces hroom
  exact ⟨total, difference, hitems, hsub, hdifference⟩

theorem HasRoom.exists_difference (hroom : s.HasRoom built)
    (htotal : Decimal.HasPlaces 8 s.order.total.toRat) (hbuilt : s.builtItems = .ok built) :
    ∃ total difference, itemTotal built = .ok total ∧ s.order.total.sub total = .ok difference ∧
      difference.toRat = s.order.total.toRat - amountSum built := by
  have hbound : (10 : ℚ) ^ 23 < Decimal.magnitudeBound := by norm_num [Decimal.magnitudeBound]
  have habs : |s.order.total.toRat - amountSum built| ≤
      |s.order.total.toRat| + amountAbs built := by
    calc
      |s.order.total.toRat - amountSum built| ≤ |s.order.total.toRat| + |amountSum built| :=
        abs_sub _ _
      _ ≤ |s.order.total.toRat| + amountAbs built := by
        gcongr
        exact Decimal.abs_sumRat_le _
  have htotalAbs := abs_nonneg s.order.total.toRat
  unfold HasRoom at hroom
  apply Sale.exists_difference (by decide) (by decide) htotal (scale_le_of_mem_builtItems hbuilt)
  · norm_num [Money.places]
    linarith
  · linarith

/-- The items miss the total by what rounding takes from the difference. -/
theorem exists_rounded_difference (htotal : Decimal.HasPlaces 8 s.order.total.toRat)
    (h : s.items = .ok items) (hroom : s.HasRoom items) :
    ∃ difference : Decimal,
      s.order.total.toRat - amountSum items = difference.toRat - (Money.round difference).toRat ∧
      (Money.IsCents difference.toRat ↔ Money.IsCents s.order.total.toRat) := by
  obtain ⟨built, extra, hbuilt, hextra, rfl⟩ := items_eq_ok.mp h
  obtain ⟨total, difference, hsum, hsub, hdifference⟩ :=
    hroom.left.exists_difference htotal hbuilt
  refine ⟨difference, ?_, ?_⟩
  · rw [adjustment_eq hsum hsub] at hextra
    rw [amountSum_append]
    split at hextra
    next hsmall =>
      have hzero := (Money.toRat_round_eq_zero_iff difference).mpr hsmall
      rw [hzero, ← Except.ok.inj hextra, hdifference]
      simp [amountSum, Decimal.sumRat]
    next =>
      split at hextra
      -- Strict mode would have turned the sale down.
      · exact absurd hextra (by simp)
      · simp only [bind_eq_ok, ensureValid_eq_ok, pure_eq_ok] at hextra
        obtain ⟨item, ⟨-, rfl⟩, rfl⟩ := hextra
        rw [hdifference]
        simp [amountSum, Decimal.sumRat, adjustmentItem]
        ring
  · have hcents : Money.IsCents (amountSum built) :=
      Money.isCents_iff_hasPlaces.mpr (hasPlaces_amountSum (scale_le_of_mem_builtItems hbuilt))
    rw [hdifference]
    constructor
    · intro hdiff
      simpa using hdiff.add hcents
    · intro htotalCents
      exact htotalCents.sub hcents

theorem items_eq_totalMismatch_iff_of_built (hstrict : s.settings.strictTotals = true)
    (hbuilt : s.builtItems = .ok built) {total difference sum orderTotal : Decimal}
    (hsum : itemTotal built = .ok total) (hsub : s.order.total.sub total = .ok difference) :
    s.items = .error (.totalMismatch sum orderTotal) ↔
      total = sum ∧ s.order.total = orderTotal ∧ 1 / 200 ≤ |difference.toRat| := by
  rw [items_eq_of_adjustment hbuilt, adjustment_eq hsum hsub, if_pos hstrict]
  by_cases hsmall : |difference.toRat| < 1 / 200
  · rw [if_pos hsmall, ok_bind, pure_eq]
    exact iff_of_false (by simp) fun h ↦ absurd hsmall (not_lt.mpr h.2.2)
  · rw [if_neg hsmall, error_bind, Except.error.injEq, Failure.totalMismatch.injEq,
      ← and_assoc, and_iff_left (not_lt.mp hsmall)]

/-- In strict mode a sale is turned down exactly for a difference of half a cent or more. -/
theorem items_eq_totalMismatch_iff (hstrict : s.settings.strictTotals = true)
    (htotal : Decimal.HasPlaces 8 s.order.total.toRat)
    (hroom : ∀ built, s.builtItems = .ok built → s.HasRoom built) (sum orderTotal : Decimal) :
    s.items = .error (.totalMismatch sum orderTotal) ↔
      ∃ built, s.builtItems = .ok built ∧ itemTotal built = .ok sum ∧ s.order.total = orderTotal ∧
        5 / 1000 ≤ |s.order.total.toRat - amountSum built| := by
  constructor
  · intro h
    cases hbuilt : s.builtItems with
    | error cause =>
      rw [Sale.items, hbuilt, error_bind] at h
      exact absurd (hbuilt.trans h) (builtItems_ne_totalMismatch s sum orderTotal)
    | ok built =>
      obtain ⟨total, difference, hsum, hsub, hdifference⟩ :=
        (hroom built hbuilt).exists_difference htotal hbuilt
      obtain ⟨rfl, horder, hlarge⟩ :=
        (items_eq_totalMismatch_iff_of_built hstrict hbuilt hsum hsub).mp h
      refine ⟨built, rfl, hsum, horder, ?_⟩
      rw [← hdifference]
      linarith
  · rintro ⟨built, hbuilt, hsum, horder, hlarge⟩
    obtain ⟨total, difference, htotalSum, hsub, hdifference⟩ :=
      (hroom built hbuilt).exists_difference htotal hbuilt
    rw [items_eq_totalMismatch_iff_of_built hstrict hbuilt htotalSum hsub, hdifference]
    refine ⟨Except.ok.inj (htotalSum.symm.trans hsum), horder, ?_⟩
    linarith

theorem items_ne_totalMismatch (hlenient : s.settings.strictTotals = false)
    (sum orderTotal : Decimal) : s.items ≠ .error (.totalMismatch sum orderTotal) := by
  have hfails : FailsOnly Failure.OfItem s.items := by
    apply (failsOnly_builtItems s).bind
    intro built _
    apply (failsOnly_adjustment hlenient built).bind
    intro extra _
    exact .pure _
  intro h
  cases hfails _ h

/-- **The line items balance the order.**  With a total of at most eight places, and as long as it
and the amounts have room, the amounts are in cents and miss the total by at most half a cent, and
not at all if the total is in cents.  Only strict mode turns a sale down for its total, exactly if
all items could be built and miss it by half a cent or more. -/
theorem items_balance (s : Sale) :
    (∀ items, s.items = .ok items → Decimal.HasPlaces 8 s.order.total.toRat → s.HasRoom items →
      (∀ item ∈ items, item.amount.scale ≤ Money.places) ∧
      (∃ sum, itemTotal items = .ok sum ∧ sum.toRat = amountSum items) ∧
      |s.order.total.toRat - amountSum items| ≤ 5 / 1000 ∧
      (amountSum items = s.order.total.toRat ↔ Money.IsCents s.order.total.toRat)) ∧
    (s.settings.strictTotals = true → Decimal.HasPlaces 8 s.order.total.toRat →
      (∀ built, s.builtItems = .ok built → s.HasRoom built) →
      ∀ sum orderTotal, s.items = .error (.totalMismatch sum orderTotal) ↔
        ∃ built, s.builtItems = .ok built ∧ itemTotal built = .ok sum ∧
          s.order.total = orderTotal ∧ 5 / 1000 ≤ |s.order.total.toRat - amountSum built|) ∧
    (s.settings.strictTotals = false →
      ∀ sum orderTotal, s.items ≠ .error (.totalMismatch sum orderTotal)) := by
  refine ⟨?_, ?_, ?_⟩
  · intro items h htotal hroom
    have hcents := scale_le_of_mem_items h
    obtain ⟨difference, hmiss, hisCents⟩ := exists_rounded_difference htotal h hroom
    have hsum : amountAbs items * 10 ^ Money.places < Decimal.magnitudeBound := by
      have htotalAbs := abs_nonneg s.order.total.toRat
      unfold HasRoom at hroom
      norm_num [Money.places, Decimal.magnitudeBound]
      linarith
    refine ⟨hcents, exists_itemTotal hcents hsum, ?_, ?_⟩
    · rw [hmiss]
      exact (Money.abs_sub_round_le difference).trans (by norm_num)
    · rw [← hisCents, ← Money.toRat_round_eq_iff, eq_comm, ← sub_eq_zero, hmiss, sub_eq_zero,
        eq_comm]
  · intro hstrict htotal hroom sum orderTotal
    exact items_eq_totalMismatch_iff hstrict htotal hroom sum orderTotal
  · intro hlenient sum orderTotal
    exact items_ne_totalMismatch hlenient sum orderTotal

/-- A hat for 20 in an order of 19.995. -/
def halfCentSale (strict : Bool) : Sale :=
  shopSale strict
    (shopOrder [shopItem "hat" .product (.ofUInt32 20) []] 0 []
      (.signed false 19995 3 (by decide) Decimal.three_le_maxScale))

/-- The line item of the hat. -/
def hatLine (s : Sale) : LineItem :=
  s.productLine (shopItem "hat" .product (.ofUInt32 20) []) (.ofUInt32 20) .empty

theorem builtItems_halfCentSale (strict : Bool) :
    (halfCentSale strict).builtItems = .ok [hatLine (halfCentSale strict)] := by
  have hproducts : (halfCentSale strict).productItems = .ok [hatLine (halfCentSale strict)] := by
    cases strict <;> rfl
  exact builtItems_of_product hproducts rfl rfl

theorem items_halfCentSale :
    (halfCentSale false).items = .ok [hatLine (halfCentSale false),
      (halfCentSale false).adjustmentItem (.signed true 1 2 (by decide) (by decide))] := by
  rw [items_eq_of_adjustment (builtItems_halfCentSale false)]
  rfl

theorem total_halfCentSale (strict : Bool) :
    (halfCentSale strict).order.total.toRat = 19995 / 1000 := by
  change (Decimal.signed false 19995 3 _ _).toRat = _
  rw [Decimal.toRat_signed]
  norm_num

theorem hasPlaces_halfCentSale (strict : Bool) :
    Decimal.HasPlaces 8 (halfCentSale strict).order.total.toRat := by
  rw [total_halfCentSale]
  exact ⟨1999500000, by norm_num⟩

theorem amounts_hatLine (s : Sale) : amountSum [hatLine s] = 20 ∧ amountAbs [hatLine s] = 20 := by
  have hprice : (hatLine s).amount.toRat = 20 := Decimal.toRat_ofUInt32 20
  simp [amountSum, amountAbs, Decimal.sumRat, Decimal.sumAbs, hprice]

theorem items_balance_halfCent :
    (∃ items, (halfCentSale false).items = .ok items ∧
      |(halfCentSale false).order.total.toRat - amountSum items| ≤ 5 / 1000 ∧
      amountSum items ≠ (halfCentSale false).order.total.toRat) ∧
    (halfCentSale true).items =
      .error (.totalMismatch (.ofUInt32 20) (halfCentSale true).order.total) := by
  constructor
  · have hroom : (halfCentSale false).HasRoom ([hatLine (halfCentSale false)] ++
        [(halfCentSale false).adjustmentItem (.signed true 1 2 (by decide) (by decide))]) := by
      rw [HasRoom, amountAbs_append, (amounts_hatLine _).2, total_halfCentSale, amountAbs,
        Decimal.sumAbs]
      simp only [List.map_cons, List.map_nil, adjustmentItem, Decimal.toRat_signed]
      norm_num
    obtain ⟨-, -, hclose, hexact⟩ :=
      (items_balance (halfCentSale false)).1 _ items_halfCentSale (hasPlaces_halfCentSale false)
        hroom
    refine ⟨_, items_halfCentSale, hclose, ?_⟩
    intro heq
    obtain ⟨n, hn⟩ := hexact.mp heq
    rw [total_halfCentSale, div_eq_div_iff (by norm_num) (by norm_num)] at hn
    have hint : (19995 * 100 : ℤ) = n * 1000 := by exact_mod_cast hn
    omega
  · have hroom : ∀ built, (halfCentSale true).builtItems = .ok built →
        (halfCentSale true).HasRoom built := by
      intro built hbuilt
      rw [← Except.ok.inj ((builtItems_halfCentSale true).symm.trans hbuilt), HasRoom,
        (amounts_hatLine _).2, total_halfCentSale]
      norm_num
    apply ((items_balance (halfCentSale true)).2.1 rfl (hasPlaces_halfCentSale true) hroom _ _).mpr
    refine ⟨_, builtItems_halfCentSale true, rfl, rfl, ?_⟩
    rw [(amounts_hatLine _).1, total_halfCentSale]
    norm_num

end Sale
end ShopPayments
