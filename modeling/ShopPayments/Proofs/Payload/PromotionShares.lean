import Mathlib.Algebra.BigOperators.Ring.List
import ShopPayments.Proofs.Decimal.Tolerance
import ShopPayments.Proofs.Payload.Balance

/-!
# A promotion split over its tax rules

Each rule carries its percentage of the total, rounded to cents on its own, so the discounts of a
promotion miss its total by at most half a cent for each rule, and by nothing where the shares come
out in whole cents (`promotionItems_near_total`).  They do not add up to the total in general: two
halves of an odd number of cents are both rounded away from zero (`halves_ne_total`).
-/

namespace ShopPayments

/-- What lies near a quantity is rounded to half a cent around it.  A quantity below half a cent has
no part in the error that grows with the quantity, as nothing is left of it. -/
theorem Money.abs_round_sub_le_of_near {d : Decimal} {x : ℚ}
    (h : |d.toRat - x| ≤ 3 * (1 + |x|) / 10 ^ 28) :
    |(round d).toRat - x| ≤ 1 / 200 + |x| / 10 ^ 25 := by
  have hx := abs_nonneg x
  rcases le_total |x| (1 / 250) with hsmall | hlarge
  · have hzero : (round d).toRat = 0 := by
      have htriangle := abs_sub_abs_le_abs_sub d.toRat x
      rw [toRat_round_eq_zero_iff]
      linarith
    rw [hzero, zero_sub, abs_neg]
    linarith
  · have hround := abs_sub_round_le d
    rw [abs_sub_comm] at hround
    have hsum := abs_sub_le (round d).toRat d.toRat x
    linarith

namespace Sale

variable {s : Sale} {promotion : OrderItem} {total percentage amount : Decimal}

/-! ## One share -/

/-- The share of a total at a percentage, before it is rounded. -/
def exactShare (total percentage : Decimal) : ℚ := total.toRat * percentage.toRat / 100

theorem hundred_mul_exactShare (total percentage : Decimal) :
    100 * exactShare total percentage = total.toRat * percentage.toRat := by
  unfold exactShare
  ring

section OneShare

variable (hroom : 100 * |exactShare total percentage| + 1 ≤ Decimal.magnitudeBound)
include hroom

theorem exists_ruleShare : ∃ amount, ruleShare total percentage = .ok amount := by
  have hproduct : |total.toRat * percentage.toRat| ≤ Decimal.magnitudeBound - 1 := by
    rw [← hundred_mul_exactShare, abs_mul, abs_of_pos (by norm_num)]
    linarith
  obtain ⟨scaled, hscaled⟩ := Decimal.exists_mul hproduct
  exact ⟨_, by rw [ruleShare, hscaled, liftOverflow_ok, ok_bind, pure_eq]⟩

/-- A share is the cents of a decimal near the exact share. -/
theorem exists_near_of_ruleShare (h : ruleShare total percentage = .ok amount) :
    ∃ quotient, amount = Money.round quotient ∧
      |quotient.toRat - exactShare total percentage| ≤
        3 * (1 + |exactShare total percentage|) / 10 ^ 28 := by
  simp only [ruleShare, bind_eq_ok, liftOverflow_eq_ok, pure_eq_ok] at h
  obtain ⟨scaled, hscaled, rfl⟩ := h
  have hstores := Decimal.mul_stores hscaled
  rw [← hundred_mul_exactShare] at hstores
  exact ⟨_, rfl, Decimal.abs_percentage_sub_le hstores hroom⟩

theorem abs_ruleShare_sub_le (h : ruleShare total percentage = .ok amount) :
    |amount.toRat - exactShare total percentage| ≤
      1 / 200 + |exactShare total percentage| / 10 ^ 25 := by
  obtain ⟨quotient, rfl, hnear⟩ := exists_near_of_ruleShare hroom h
  exact Money.abs_round_sub_le_of_near hnear

theorem toRat_ruleShare_of_isCents (h : ruleShare total percentage = .ok amount)
    (hcents : Money.IsCents (exactShare total percentage))
    (hsmall : |exactShare total percentage| < 10 ^ 22) :
    amount.toRat = exactShare total percentage := by
  obtain ⟨quotient, rfl, hnear⟩ := exists_near_of_ruleShare hroom h
  exact Money.toRat_round_of_near hcents (by linarith)

end OneShare

/-! ## All shares -/

/-- The promotion is split over tax rules that carry its whole total, which is in cents. -/
structure SplitsByRules (s : Sale) (promotion : OrderItem) : Prop where
  not_net : s.order.isNet = false
  relative : promotion.definition ≠ some .absolute
  cents : Money.IsCents promotion.price.total.toRat
  has_rule : promotion.price.rules ≠ []
  nonneg : ∀ rule ∈ promotion.price.rules, 0 ≤ rule.percentage.toRat
  sum_eq : Decimal.sumRat (promotion.price.rules.map (·.percentage)) = 100

/-- The exact share of a rule in the total of the promotion. -/
def shareOf (promotion : OrderItem) (rule : TaxRule) : ℚ :=
  exactShare promotion.price.total rule.percentage

/-- The line item is the discount for a rule: the share of the rule at the rate of the rule. -/
def IsRuleItem (s : Sale) (promotion : OrderItem) (rule : TaxRule) (item : LineItem) : Prop :=
  s.IsDiscountOf ⟨promotion.label.getD "Unnamed",
    ruleShare promotion.price.total rule.percentage, rule.rate⟩ item

/-- The amount of the line item is in cents, and within half a cent of the exact share of the rule,
but for what 28 digits leave out of it. -/
structure IsNearShare (promotion : OrderItem) (rule : TaxRule) (item : LineItem) : Prop where
  cents : Money.IsCents item.amount.toRat
  abs_sub_le : |item.amount.toRat - shareOf promotion rule| ≤
    1 / 200 + |shareOf promotion rule| / 10 ^ 25

theorem abs_sum_sub_sum_le {α β : Type} {l : List α} {l' : List β} {f : α → ℚ} {g : β → ℚ}
    {error : α → ℚ} (h : List.Forall₂ (fun a b ↦ |g b - f a| ≤ error a) l l') :
    |(l'.map g).sum - (l.map f).sum| ≤ (l.map error).sum := by
  induction h with
  | nil => simp
  | @cons a b rest rest' hfirst _ ih =>
    simp only [List.map_cons, List.sum_cons]
    calc
      |g b + (rest'.map g).sum - (f a + (rest.map f).sum)|
          = |g b - f a + ((rest'.map g).sum - (rest.map f).sum)| := by ring_nf
      _ ≤ |g b - f a| + |(rest'.map g).sum - (rest.map f).sum| := abs_add_le _ _
      _ ≤ error a + (rest.map error).sum := add_le_add hfirst ih

namespace SplitsByRules

variable {rule : TaxRule} {items : List LineItem} (h : s.SplitsByRules promotion)
include h

theorem promotionItems_eq_ok :
    s.promotionItems promotion = .ok items ↔
      List.Forall₂ (s.IsRuleItem promotion) promotion.price.rules items := by
  have hsplits : s.splitsByTaxes promotion = false := by
    simp [splitsByTaxes, h.not_net, h.relative]
  have hrules : promotion.price.rules.isEmpty = false := by
    simp [List.isEmpty_eq_false_iff, h.has_rule]
  simp only [promotionItems_eq, promotionParts, hsplits, hrules, Bool.false_eq_true, if_false,
    mapM_eq_ok, partItem_eq_ok, List.forall₂_map_left_iff]
  rfl

theorem percentage_le (hrule : rule ∈ promotion.price.rules) : rule.percentage.toRat ≤ 100 := by
  rw [← h.sum_eq, Decimal.sumRat, List.map_map]
  apply List.single_le_sum
  · intro x hx
    obtain ⟨other, hother, rfl⟩ := List.mem_map.mp hx
    exact h.nonneg other hother
  · exact List.mem_map.mpr ⟨rule, hrule, rfl⟩

theorem abs_shareOf (hrule : rule ∈ promotion.price.rules) :
    |shareOf promotion rule| = |promotion.price.total.toRat| * (rule.percentage.toRat / 100) := by
  have hpercentage := h.nonneg rule hrule
  rw [shareOf, exactShare, mul_div_assoc, abs_mul, abs_of_nonneg (a := _ / 100) (by positivity)]

theorem abs_shareOf_le (hrule : rule ∈ promotion.price.rules) :
    |shareOf promotion rule| ≤ |promotion.price.total.toRat| := by
  rw [h.abs_shareOf hrule]
  apply mul_le_of_le_one_right (abs_nonneg _)
  have hpercentage := h.percentage_le hrule
  linarith

/-- Shares of a quantity at all percentages make up the quantity. -/
theorem sum_mul_percentage (x : ℚ) :
    (promotion.price.rules.map fun rule ↦ x * (rule.percentage.toRat / 100)).sum = x := by
  have hsum : (promotion.price.rules.map fun rule ↦ rule.percentage.toRat).sum = 100 := by
    rw [← h.sum_eq, Decimal.sumRat, List.map_map]
    rfl
  have hshare (rule : TaxRule) :
      x * (rule.percentage.toRat / 100) = x / 100 * rule.percentage.toRat := by
    ring
  simp only [hshare]
  rw [List.sum_map_mul_left, hsum, div_mul_cancel₀ _ (by norm_num)]

theorem sum_shareOf :
    (promotion.price.rules.map (shareOf promotion)).sum = promotion.price.total.toRat := by
  rw [← h.sum_mul_percentage promotion.price.total.toRat]
  exact congrArg List.sum (List.map_congr_left fun rule _ ↦ mul_div_assoc _ _ _)

theorem sum_abs_shareOf :
    (promotion.price.rules.map fun rule ↦ |shareOf promotion rule|).sum =
      |promotion.price.total.toRat| := by
  rw [← h.sum_mul_percentage |promotion.price.total.toRat|]
  exact congrArg List.sum (List.map_congr_left fun rule hrule ↦ h.abs_shareOf hrule)

theorem room_of_rule (hrule : rule ∈ promotion.price.rules)
    (hroom : 100 * |promotion.price.total.toRat| < Decimal.magnitudeBound) :
    100 * |shareOf promotion rule| + 1 ≤ Decimal.magnitudeBound := by
  have hshare := h.abs_shareOf_le hrule
  have hcents := h.cents.hundred_mul_abs_add_one_le hroom
  linarith

theorem exists_promotionItems
    (hroom : 100 * |promotion.price.total.toRat| < Decimal.magnitudeBound) :
    ∃ items, s.promotionItems promotion = .ok items := by
  have hshares : ∀ rule ∈ promotion.price.rules, ∃ item, s.IsRuleItem promotion rule item := by
    intro rule hrule
    obtain ⟨amount, hamount⟩ := exists_ruleShare (h.room_of_rule hrule hroom)
    exact ⟨s.discountItem (promotion.label.getD "Unnamed") amount rule.rate, hamount, rfl⟩
  obtain ⟨items, hitems⟩ := exists_forall₂ hshares
  exact ⟨items, h.promotionItems_eq_ok.mpr hitems⟩

theorem forall₂_near_shareOf
    (hroom : 100 * |promotion.price.total.toRat| < Decimal.magnitudeBound)
    (hitems : s.promotionItems promotion = .ok items) :
    List.Forall₂ (IsNearShare promotion) promotion.price.rules items := by
  refine ((List.forall₂_and_left _ _).mpr
    ⟨fun _ hrule ↦ hrule, h.promotionItems_eq_ok.mp hitems⟩).imp ?_
  intro rule item ⟨hrule, hitem⟩
  exact ⟨Money.isCents_of_scale_le (scale_ruleShare_le hitem.charged),
    abs_ruleShare_sub_le (h.room_of_rule hrule hroom) hitem.charged⟩

/-- The errors of the shares add up to half a cent for each rule, and to what 28 digits leave out of
all shares together. -/
theorem abs_amountSum_sub_le
    (hroom : 100 * |promotion.price.total.toRat| < Decimal.magnitudeBound)
    (hitems : s.promotionItems promotion = .ok items) :
    |amountSum items - promotion.price.total.toRat| ≤
      promotion.price.rules.length / 200 + |promotion.price.total.toRat| / 10 ^ 25 := by
  have herror := abs_sum_sub_sum_le
    ((h.forall₂_near_shareOf hroom hitems).imp fun _ _ hnear ↦ hnear.abs_sub_le)
  have hsum : (items.map fun item ↦ item.amount.toRat).sum = amountSum items := by
    rw [amountSum, Decimal.sumRat, List.map_map]
    rfl
  have herrors : (promotion.price.rules.map fun rule ↦
      1 / 200 + |shareOf promotion rule| / 10 ^ 25).sum =
        promotion.price.rules.length / 200 + |promotion.price.total.toRat| / 10 ^ 25 := by
    rw [List.sum_map_add, ← h.sum_abs_shareOf]
    simp only [div_eq_mul_inv, List.sum_map_mul_right]
    simp
  rwa [hsum, h.sum_shareOf, herrors] at herror

theorem isCents_amountSum (hitems : s.promotionItems promotion = .ok items) :
    Money.IsCents (amountSum items) := by
  rw [Money.isCents_iff_hasPlaces]
  apply hasPlaces_amountSum
  intro item hitem
  obtain ⟨rule, -, hrule⟩ := exists_of_forall₂_of_mem (h.promotionItems_eq_ok.mp hitems) hitem
  exact scale_ruleShare_le hrule.charged

theorem amountSum_of_isCents
    (hroom : 100 * |promotion.price.total.toRat| < Decimal.magnitudeBound)
    (hsmall : |promotion.price.total.toRat| < 10 ^ 22)
    (hcents : ∀ rule ∈ promotion.price.rules, Money.IsCents (shareOf promotion rule))
    (hitems : s.promotionItems promotion = .ok items) :
    amountSum items = promotion.price.total.toRat := by
  have hamounts : items.map (fun item ↦ item.amount.toRat) =
      promotion.price.rules.map (shareOf promotion) := by
    apply map_eq_of_forall₂ (h.promotionItems_eq_ok.mp hitems)
    intro rule hrule item hitem
    exact toRat_ruleShare_of_isCents (h.room_of_rule hrule hroom) hitem.charged
      (hcents rule hrule) ((h.abs_shareOf_le hrule).trans_lt hsmall)
  rw [← h.sum_shareOf, ← hamounts, amountSum, Decimal.sumRat, List.map_map]
  rfl

end SplitsByRules

/-- **The discounts of a promotion miss its total by at most half a cent for each rule.**  All of
them are there if a hundred times the total has room, each is near its exact share, and where the
exact shares are whole cents the discounts add up to the total. -/
theorem promotionItems_near_total (h : s.SplitsByRules promotion)
    (hroom : 100 * |promotion.price.total.toRat| < Decimal.magnitudeBound) :
    ∃ items, s.promotionItems promotion = .ok items ∧
      List.Forall₂ (IsNearShare promotion) promotion.price.rules items ∧
      |amountSum items - promotion.price.total.toRat| ≤
        promotion.price.rules.length / 200 + |promotion.price.total.toRat| / 10 ^ 25 ∧
      (|promotion.price.total.toRat| < 10 ^ 22 →
        |amountSum items - promotion.price.total.toRat| ≤
            (promotion.price.rules.length / 2 : ℕ) / 100 ∧
          ((∀ rule ∈ promotion.price.rules, Money.IsCents (shareOf promotion rule)) →
            amountSum items = promotion.price.total.toRat)) := by
  obtain ⟨items, hitems⟩ := h.exists_promotionItems hroom
  have herror := h.abs_amountSum_sub_le hroom hitems
  refine ⟨items, hitems, h.forall₂_near_shareOf hroom hitems, herror, fun hsmall ↦ ⟨?_, ?_⟩⟩
  · apply ((h.isCents_amountSum hitems).sub h.cents).abs_le_half
    linarith
  · intro hcents
    exact h.amountSum_of_isCents hroom hsmall hcents hitems

/-- A voucher for a total, split over rules. -/
def splitVoucher (total : Decimal) (rules : List TaxRule) : OrderItem :=
  { shopItem "voucher" .promotion total [] with
    price := ⟨total, 1, total, [], rules⟩
    definition := some .percentage }

/-- The sale of a voucher. -/
def voucherSale (voucher : OrderItem) : Sale :=
  shopSale true (shopOrder [voucher] 0 [] voucher.price.total)

theorem splitsByRules_splitVoucher {total : Decimal} {rules : List TaxRule}
    (hcents : Money.IsCents total.toRat) (hrules : rules ≠ [])
    (hnonneg : ∀ rule ∈ rules, 0 ≤ rule.percentage.toRat)
    (hsum : Decimal.sumRat (rules.map (·.percentage)) = 100) :
    (voucherSale (splitVoucher total rules)).SplitsByRules (splitVoucher total rules) where
  not_net := rfl
  relative := by simp [splitVoucher]
  cents := hcents
  has_rule := hrules
  nonneg := hnonneg
  sum_eq := hsum

/-- A voucher for ten and a cent, half of it at each of two rates. -/
def halvedVoucher : OrderItem :=
  splitVoucher (.signed true 1001 2 (by decide) Decimal.two_le_maxScale)
    [⟨.ofUInt32 19, .ofUInt32 50⟩, ⟨.ofUInt32 7, .ofUInt32 50⟩]

/-- A voucher for a total of which a hundred times has no room, all of it at one rate. -/
def vastVoucher : OrderItem :=
  splitVoucher (.signed true (10 ^ 27) 0 (by decide) (Nat.zero_le _))
    [⟨.ofUInt32 19, .ofUInt32 100⟩]

theorem splitsByRules_halvedVoucher : (voucherSale halvedVoucher).SplitsByRules halvedVoucher := by
  apply splitsByRules_splitVoucher (Money.isCents_of_scale_le (by decide)) (by simp)
  · simp [Decimal.toRat_ofUInt32]
  · simp only [Decimal.sumRat, List.map_cons, List.map_nil, Decimal.toRat_ofUInt32,
      UInt32.reduceToNat]
    norm_num

theorem toRat_halvedVoucher : halvedVoucher.price.total.toRat = -1001 / 100 := by
  norm_num [halvedVoucher, splitVoucher, Decimal.toRat_signed]

theorem promotionItems_near_total_halvedVoucher :
    100 * |halvedVoucher.price.total.toRat| < Decimal.magnitudeBound ∧
      ∃ items, (voucherSale halvedVoucher).promotionItems halvedVoucher = .ok items ∧
        |amountSum items - halvedVoucher.price.total.toRat| ≤ 1 / 100 := by
  have hroom : 100 * |halvedVoucher.price.total.toRat| < Decimal.magnitudeBound := by
    norm_num [toRat_halvedVoucher, abs_of_neg, Decimal.magnitudeBound]
  have hsmall : |halvedVoucher.price.total.toRat| < 10 ^ 22 := by
    norm_num [toRat_halvedVoucher, abs_of_neg]
  obtain ⟨items, hitems, -, -, hnear⟩ :=
    promotionItems_near_total splitsByRules_halvedVoucher hroom
  refine ⟨hroom, items, hitems, (hnear hsmall).1.trans ?_⟩
  norm_num [halvedVoucher, splitVoucher]

/-- Two halves of an odd number of cents are both rounded away from zero, and a total of which a
hundred times has no room has no shares at all. -/
theorem halves_ne_total :
    ((voucherSale halvedVoucher).SplitsByRules halvedVoucher ∧
      ∃ items, (voucherSale halvedVoucher).promotionItems halvedVoucher = .ok items ∧
        amountSum items = -1002 / 100 ∧ halvedVoucher.price.total.toRat = -1001 / 100) ∧
    (voucherSale vastVoucher).SplitsByRules vastVoucher ∧
      (voucherSale vastVoucher).promotionItems vastVoucher =
        .error (.overflow .multiplication) := by
  refine ⟨⟨splitsByRules_halvedVoucher, ?_⟩, ?_, rfl⟩
  · obtain ⟨items, hitems, hamounts⟩ :
        ∃ items, (voucherSale halvedVoucher).promotionItems halvedVoucher = .ok items ∧
          items.map (·.amount) =
            [.signed true 501 2 (by decide) (by decide),
              .signed true 501 2 (by decide) (by decide)] := ⟨_, rfl, rfl⟩
    refine ⟨items, hitems, ?_, toRat_halvedVoucher⟩
    norm_num [amountSum, hamounts, Decimal.sumRat, Decimal.toRat_signed]
  · apply splitsByRules_splitVoucher (Money.isCents_of_scale_le (by decide)) (by simp)
    · simp [Decimal.toRat_ofUInt32]
    · simp only [Decimal.sumRat, List.map_cons, List.map_nil, Decimal.toRat_ofUInt32,
        UInt32.reduceToNat]
      norm_num

end Sale
end ShopPayments
