import ShopPayments.Proofs.Payload.Validity
import ShopPayments.Proofs.Text

/-!
# Which sales are turned down

Many checks meet many cuts on the way from a sale to its payload.  Most limits are out of reach:
texts are cut to them, fallbacks fill in what is missing, and the fixed parts of a text are long
enough.  What remains are four conditions, each on the sale as it was handed over (`payload_fails`):
an item of the order, the total, the tax number of the customer, or a field of the payload that is
passed on as it is.  Conversely each of them turns the sale down.
-/

namespace ShopPayments

open Violation

/-! ## Validity in lengths -/

theorem LineItemAttribute.isValid_iff_size {a : LineItemAttribute} :
    isValid a = true ↔ (0 < Text.size a.label ∧ Text.size a.label ≤ 512) ∧
      0 < Text.size a.value ∧ Text.size a.value ≤ 512 := by
  simp only [isValid_iff, Validated.violations, List.append_eq_nil_iff, needs_eq_nil,
    atMost_eq_nil, Option.mem_some_iff, forall_eq', and_assoc]

theorem Text.size_cut_pos_iff {s : String} {limit : ℕ} (hlimit : 0 < limit) :
    0 < size (cut s limit) ↔ 0 < size s := by
  rw [size_cut]
  omega

/-- A text that is cut to a limit is never longer. -/
theorem size_le_of_mem_cutFilled {s : Option String} {limit : ℕ} :
    ∀ text ∈ cutFilled s limit, Text.size text ≤ limit := by
  intro text htext
  obtain ⟨whole, -, rfl⟩ := Option.map_eq_some_iff.mp htext
  exact Text.size_cut_le whole limit

theorem Customer.size_le_of_mem_firstFilled {own fallback : Option String} {limit : ℕ} :
    ∀ text ∈ firstFilled own fallback limit, Text.size text ≤ limit := by
  intro text htext
  obtain ⟨whole, -, rfl⟩ := Option.map_eq_some_iff.mp htext
  exact Text.size_cut_le whole limit

namespace Sale

variable {s : Sale} {i : OrderItem}

/-! ## Items of the order -/

/-- The option is chosen in a group without a name, or has none itself. -/
def IsBlankOption (o : ProductOption) : Prop := Text.size o.group = 0 ∨ Text.size o.option = 0

/-- The item has no id or a long one, no label although it needs one of its own, or a blank
option. -/
def IsUnacceptable (i : OrderItem) : Prop :=
  (Text.size i.id = 0 ∨ 200 < Text.size i.id) ∨
    (i.kind ≠ .customOption ∧ ∀ label ∈ i.label, Text.size label = 0) ∨
    ∃ o ∈ i.product.options, IsBlankOption o

/-- An item of the order that stands for itself in the payload is not acceptable. -/
def HasUnacceptableItem (s : Sale) : Prop :=
  ∃ i ∈ s.order.items, i.kind ≠ .custom ∧ i.kind ≠ .promotion ∧ IsUnacceptable i

theorem isValid_optionAttribute_iff (o : ProductOption) :
    isValid (⟨Text.cut o.group 512, Text.cut o.option 512⟩ : LineItemAttribute) = true ↔
      ¬ IsBlankOption o := by
  rw [LineItemAttribute.isValid_iff_size, Text.size_cut_pos_iff (by decide),
    Text.size_cut_pos_iff (by decide), IsBlankOption]
  have hgroup := Text.size_cut_le o.group 512
  have hoption := Text.size_cut_le o.option 512
  dsimp only
  omega

/-- The shown options are there exactly if none of them is blank. -/
theorem exists_optionAttributes_iff (options : List ProductOption) :
    (∃ attributes, optionAttributes options = .ok attributes) ↔
      ∀ o ∈ options, ¬ IsBlankOption o := by
  constructor
  · rintro ⟨attributes, h⟩ o ho
    simp only [optionAttributes, bind_eq_ok, mapM_eq_ok] at h
    obtain ⟨shown, hshown, -⟩ := h
    obtain ⟨e, -, he⟩ := exists_of_forall₂_of_mem hshown.flip ho
    simp only [optionAttribute, bind_eq_ok, ensureValid_eq_ok] at he
    obtain ⟨a, ⟨hvalid, -⟩, -⟩ := he
    exact (isValid_optionAttribute_iff o).mp hvalid
  · intro hoptions
    have hshown : options.mapM optionAttribute = .ok (options.map fun o ↦
        (optionKey o.group, ⟨Text.cut o.group 512, Text.cut o.option 512⟩)) := by
      rw [mapM_eq_ok, List.forall₂_map_right_iff, List.forall₂_same]
      intro o ho
      rw [optionAttribute, ensureValid_of_isValid
        ((isValid_optionAttribute_iff o).mpr (hoptions o ho))]
      rfl
    exact ⟨_, by rw [optionAttributes, hshown]; rfl⟩

/-- The label of an item is there exactly if it belongs to an option or has one of its own. -/
theorem size_labelOf_pos_iff (s : Sale) (i : OrderItem) :
    0 < Text.size (s.labelOf i) ↔
      ¬ (i.kind ≠ .customOption ∧ ∀ label ∈ i.label, Text.size label = 0) := by
  have hcolon : Text.size ": " = 2 := by decide
  have hempty : Text.size "" = 0 := by decide
  unfold labelOf
  dsimp only
  split
  next hkind =>
    rw [Text.size_append, Text.size_append]
    exact iff_of_true (by omega) fun h ↦ h.1 hkind
  next hkind =>
    cases i.label with
    | none => simp [hkind, hempty]
    | some label => simp [hkind, Nat.pos_iff_ne_zero]

theorem isValid_productLine_iff (s : Sale) (i : OrderItem) (amount : Decimal)
    (attributes : Dictionary LineItemAttribute) :
    isValid (s.productLine i amount attributes) = true ↔
      ¬ ((Text.size i.id = 0 ∨ 200 < Text.size i.id) ∨
        (i.kind ≠ .customOption ∧ ∀ label ∈ i.label, Text.size label = 0)) := by
  have hname := Text.size_cut_le (s.labelOf i) 150
  have hsku : ∀ sku ∈ some (Text.cut (skuOf i) 200), Text.size sku ≤ 200 := by
    rintro _ ⟨⟩
    exact Text.size_cut_le _ _
  rw [LineItem.isValid_iff_size, not_or, ← s.size_labelOf_pos_iff]
  simp only [productLine, Text.size_cut_pos_iff (by decide : 0 < 150)]
  constructor
  · rintro ⟨⟨hlabel, -⟩, -, hid⟩
    exact ⟨by omega, hlabel⟩
  · rintro ⟨hid, hlabel⟩
    exact ⟨⟨hlabel, hname⟩, hsku, by omega⟩

/-- The line item of an acceptable item lacks at most the room for its amount. -/
theorem failsOnly_productItem (h : ¬ IsUnacceptable i) :
    FailsOnly Failure.IsOverflow (s.productItem i) := by
  rw [IsUnacceptable, ← or_assoc, not_or] at h
  obtain ⟨hline, hoptions⟩ := h
  obtain ⟨attributes, hattributes⟩ := (exists_optionAttributes_iff i.product.options).mpr
    fun o ho hblank ↦ hoptions ⟨o, ho, hblank⟩
  rw [productItem_eq]
  refine (failsOnly_chargeFor s _ _).bind fun amount _ ↦ ?_
  rw [hattributes, ok_bind, ensureValid_of_isValid ((s.isValid_productLine_iff i _ _).mpr hline)]
  exact .ok _

theorem not_isUnacceptable_of_productItem {item : LineItem} (h : s.productItem i = .ok item) :
    ¬ IsUnacceptable i := by
  simp only [productItem_eq, bind_eq_ok, ensureValid_eq_ok] at h
  obtain ⟨amount, -, attributes, hattributes, hvalid, -⟩ := h
  rw [IsUnacceptable, ← or_assoc, not_or]
  refine ⟨(s.isValid_productLine_iff i amount attributes).mp hvalid, ?_⟩
  rintro ⟨o, ho, hblank⟩
  exact (exists_optionAttributes_iff _).mp ⟨attributes, hattributes⟩ o ho hblank

theorem isCharged_iff (i : OrderItem) :
    isCharged i = true ↔ i.kind ≠ .custom ∧ i.kind ≠ .promotion := by
  simp [isCharged]

/-- Sales without unacceptable items lack at most the room for an amount. -/
theorem failsOnly_builtItems_of_acceptable (h : ¬ s.HasUnacceptableItem) :
    FailsOnly Failure.IsOverflow s.builtItems := by
  have hproducts : FailsOnly Failure.IsOverflow s.productItems := by
    apply FailsOnly.mapM
    intro i hi
    obtain ⟨hmem, hcharged⟩ := List.mem_filter.mp hi
    obtain ⟨hcustom, hpromotion⟩ := (isCharged_iff i).mp hcharged
    exact failsOnly_productItem fun hi ↦ h ⟨i, hmem, hcustom, hpromotion, hi⟩
  refine hproducts.bind fun products _ ↦ ?_
  refine (failsOnly_discountItems s).bind fun discounts _ ↦ ?_
  refine (failsOnly_shippingItems s).bind fun shipping _ ↦ ?_
  exact .pure _

theorem not_hasUnacceptableItem_of_builtItems {built : List LineItem}
    (h : s.builtItems = .ok built) : ¬ s.HasUnacceptableItem := by
  rintro ⟨i, hmem, hcustom, hpromotion, hi⟩
  simp only [builtItems, bind_eq_ok] at h
  obtain ⟨products, hproducts, -⟩ := h
  have hcharged : i ∈ s.order.items.filter isCharged :=
    List.mem_filter.mpr ⟨hmem, (isCharged_iff i).mpr ⟨hcustom, hpromotion⟩⟩
  obtain ⟨item, -, hitem⟩ := exists_of_forall₂_of_mem (mapM_eq_ok.mp hproducts).flip hcharged
  exact not_isUnacceptable_of_productItem hitem hi

/-! ## The total -/

/-- The amounts of the items miss the total of the order by some cents, and there is no adjustment:
strict mode forbids it, or its label is missing or too long. -/
def MissesTotal (s : Sale) : Prop :=
  ∃ built total difference, s.builtItems = .ok built ∧ itemTotal built = .ok total ∧
    s.order.total.sub total = .ok difference ∧ (Money.round difference).toRat ≠ 0 ∧
    (s.settings.strictTotals = true ∨
      Text.size s.labels.adjustmentItem = 0 ∨ 150 < Text.size s.labels.adjustmentItem)

theorem isValid_adjustmentItem_iff (s : Sale) (difference : Decimal) :
    isValid (s.adjustmentItem difference) = true ↔
      ¬ (Text.size s.labels.adjustmentItem = 0 ∨ 150 < Text.size s.labels.adjustmentItem) := by
  have hid : Text.size adjustmentId = 20 := by decide
  rw [LineItem.isValid_iff_size]
  simp only [adjustmentItem, Option.mem_some_iff, forall_eq', hid]
  omega

theorem exists_adjustment_iff {built : List LineItem} {total difference : Decimal}
    (htotal : itemTotal built = .ok total) (hsub : s.order.total.sub total = .ok difference) :
    (∃ extra, s.adjustment built = .ok extra) ↔
      ¬ ((Money.round difference).toRat ≠ 0 ∧ (s.settings.strictTotals = true ∨
        Text.size s.labels.adjustmentItem = 0 ∨ 150 < Text.size s.labels.adjustmentItem)) := by
  have hsmall := Money.toRat_round_eq_zero_iff difference
  have hvalid := s.isValid_adjustmentItem_iff (Money.round difference)
  rw [adjustment_eq htotal hsub]
  by_cases hzero : (Money.round difference).toRat = 0
  · rw [if_pos (hsmall.mp hzero)]
    exact iff_of_true ⟨[], rfl⟩ fun h ↦ h.1 hzero
  · rw [if_neg (hsmall.not.mp hzero)]
    by_cases hstrict : s.settings.strictTotals = true
    · rw [if_pos hstrict]
      exact iff_of_false (by simp) fun h ↦ h ⟨hzero, .inl hstrict⟩
    · rw [if_neg hstrict]
      simp only [bind_eq_ok, ensureValid_eq_ok, pure_eq_ok, hvalid]
      constructor
      · rintro ⟨extra, item, ⟨hlabel, -⟩, -⟩ ⟨-, hmore⟩
        exact hlabel (hmore.resolve_left hstrict)
      · intro hfits
        exact ⟨_, _, ⟨fun hlabel ↦ hfits ⟨hzero, .inr hlabel⟩, rfl⟩, rfl⟩

/-- Sales that are acceptable and do not miss their total lack at most the room for an amount. -/
theorem failsOnly_items (hacceptable : ¬ s.HasUnacceptableItem) (htotal : ¬ s.MissesTotal) :
    FailsOnly Failure.IsOverflow s.items := by
  refine (failsOnly_builtItems_of_acceptable hacceptable).bind fun built hbuilt ↦ ?_
  refine FailsOnly.bind ?_ fun extra _ ↦ .pure _
  cases hsum : itemTotal built with
  | error operation =>
    rw [adjustment, hsum]
    exact .error ⟨operation, rfl⟩
  | ok total =>
    cases hsub : s.order.total.sub total with
    | error operation =>
      rw [adjustment, hsum, liftOverflow_ok, ok_bind, hsub]
      exact .error ⟨operation, rfl⟩
    | ok difference =>
      obtain ⟨extra, hextra⟩ := (exists_adjustment_iff hsum hsub).mpr fun h ↦
        htotal ⟨built, total, difference, hbuilt, hsum, hsub, h⟩
      rw [hextra]
      exact .ok extra

theorem not_missesTotal_of_items {items : List LineItem} (h : s.items = .ok items) :
    ¬ s.MissesTotal := by
  rintro ⟨built, total, difference, hbuilt, hsum, hsub, hmisses⟩
  obtain ⟨built', extra, hbuilt', hextra, -⟩ := items_eq_ok.mp h
  obtain rfl : built = built' := Except.ok.inj (hbuilt.symm.trans hbuilt')
  exact (exists_adjustment_iff hsum hsub).mp ⟨extra, hextra⟩ hmisses

/-! ## Addresses -/

end Sale

/-- The first tax number of the customer is too long. -/
def Customer.HasLongTaxNumber (c : Customer) : Prop :=
  ∃ number ∈ c.vatIds.head?, 100 < Text.size number

/-- An address is turned down for its tax number alone. -/
theorem Customer.exists_payloadAddress_iff (c : Customer) (own : Address) (withTaxNumber : Bool) :
    (∃ a, c.payloadAddress own withTaxNumber = .ok a) ↔
      ¬ (withTaxNumber = true ∧ c.HasLongTaxNumber) := by
  unfold payloadAddress
  simp only [ensureValid_eq_ok, isValid_iff, Validated.violations, List.append_eq_nil_iff,
    atMost_eq_nil, HasLongTaxNumber]
  constructor
  · rintro ⟨a, ⟨⟨⟨-, hnumber⟩, -⟩, -⟩, -⟩ ⟨rfl, number, hmem, hlong⟩
    exact absurd (hnumber number hmem) (not_le.mpr hlong)
  · intro h
    refine ⟨_, ⟨⟨⟨?_, ?_⟩, size_le_of_mem_firstFilled⟩, size_le_of_mem_cutFilled⟩, rfl⟩
    · and_intros
      all_goals first
        | exact size_le_of_mem_cutFilled
        | exact size_le_of_mem_firstFilled
    · intro number hnumber
      cases withTaxNumber with
      | false => cases hnumber
      | true => exact not_lt.mp fun hlong ↦ h ⟨rfl, number, hnumber, hlong⟩

namespace Sale

/-! ## The payload -/

/-- A field that is passed on as it is does not fit: the id of the transaction, the currency, the
email or the number of the customer, or one of the URLs. -/
def HasUnfitField (s : Sale) (customer : Customer) (pending : PendingTransaction) : Prop :=
  pending.id = 0 ∨ Text.size s.order.currency = 0 ∨ 254 < Text.size customer.email ∨
    (customer.guest = false ∧ ∃ number ∈ customer.number, 100 < Text.size number) ∨
    2000 < Text.size (pending.returnUrl ++ "&status=paid") ∨ 2000 < Text.size s.failedUrl

/-- The payload around given items and addresses. -/
def payloadOf (s : Sale) (customer : Customer) (pending : PendingTransaction) (method : UInt64)
    (items : List LineItem) (billing shipping : PayloadAddress) : Payload where
  id := pending.id
  version := pending.version
  allowedMethods := [method]
  billing := some billing
  currency := s.order.currency
  customerEmail := some customer.email
  customerId := if customer.guest then none else customer.number
  failedUrl := some s.failedUrl
  language := s.context.locale
  items
  merchantReference := some (Text.cut s.order.number 100)
  metaData := s.metaData customer (if customer.guest then none else some customer.fullName)
  shipping := some shipping
  shippingMethod := cutFilled s.context.shippingMethod 200
  spaceViewId := s.settings.spaceViewId
  successUrl := some (pending.returnUrl ++ "&status=paid")

theorem payload_eq (s : Sale) (customer : Customer) (pending : PendingTransaction)
    (method : UInt64) :
    s.payload customer pending method =
      (s.items >>= fun items ↦ customer.payloadAddress customer.billing true >>= fun billing ↦
        customer.payloadAddress customer.shipping false >>= fun shipping ↦
          ensureValid (s.payloadOf customer pending method items billing shipping)) := rfl

/-- Both URLs are long enough, whatever the shop's own parts of them are. -/
theorem nine_le_size_urls (s : Sale) (pending : PendingTransaction) :
    9 ≤ Text.size (pending.returnUrl ++ "&status=paid") ∧ 9 ≤ Text.size s.failedUrl := by
  have hpaid : Text.size "&status=paid" = 12 := by decide
  have hfail : Text.size "&status=fail" = 12 := by decide
  rw [failedUrl, Text.size_append, Text.size_append, hpaid, hfail]
  omega

theorem isValid_payloadOf_iff {s : Sale} {customer : Customer} {pending : PendingTransaction}
    {method : UInt64} {items : List LineItem} {billing shipping : PayloadAddress} :
    isValid (s.payloadOf customer pending method items billing shipping) = true ↔
      ¬ s.HasUnfitField customer pending := by
  have hid : 0 < pending.id ↔ ¬ pending.id = 0 := by
    rw [UInt64.lt_iff_toNat_lt, ← UInt64.toNat_inj]
    exact Nat.pos_iff_ne_zero
  have hnumber : (∀ number ∈ if customer.guest then none else customer.number,
      Text.size number ≤ 100) ↔
        ¬ (customer.guest = false ∧ ∃ number ∈ customer.number, 100 < Text.size number) := by
    cases customer.guest <;> simp
  have hreference := Text.size_cut_le s.order.number 100
  have hmethod : ∀ text ∈ cutFilled s.context.shippingMethod 200, Text.size text ≤ 200 :=
    size_le_of_mem_cutFilled
  obtain ⟨hpaid, hfailed⟩ := s.nine_le_size_urls pending
  simp only [isValid_iff, Validated.violations, List.append_eq_nil_iff, needs_eq_nil,
    check_eq_nil, atMost_eq_nil, atLeast_eq_nil, payloadOf, decide_eq_true_eq, hid, hnumber,
    Option.mem_some_iff, forall_eq', hreference, hpaid, hfailed, and_true, HasUnfitField, not_or,
    not_lt, Nat.pos_iff_ne_zero]
  constructor
  · rintro ⟨⟨⟨⟨⟨⟨hid, hcurrency⟩, hemail⟩, hnumber⟩, hfail⟩, -⟩, hpaid⟩
    exact ⟨hid, hcurrency, hemail, hnumber, hpaid, hfail⟩
  · rintro ⟨hid, hcurrency, hemail, hnumber, hpaid, hfail⟩
    exact ⟨⟨⟨⟨⟨⟨hid, hcurrency⟩, hemail⟩, hnumber⟩, hfail⟩, hmethod⟩, hpaid⟩

/-- **A sale for which no amount is out of range is turned down exactly for one of four causes**: an
item of the order that is not acceptable, amounts that miss the total where there is no adjustment,
a tax number that is too long, or a field that does not fit. -/
theorem payload_fails (s : Sale) (customer : Customer) (pending : PendingTransaction)
    (method : UInt64)
    (hroom : ∀ operation, s.payload customer pending method ≠ .error (.overflow operation)) :
    (∃ cause, s.payload customer pending method = .error cause) ↔
      s.HasUnacceptableItem ∨ s.MissesTotal ∨ customer.HasLongTaxNumber ∨
        s.HasUnfitField customer pending := by
  constructor
  · rintro ⟨cause, hcause⟩
    by_contra hnone
    simp only [not_or] at hnone
    obtain ⟨hacceptable, htotal, hnumber, hfields⟩ := hnone
    have honly : FailsOnly Failure.IsOverflow (s.payload customer pending method) := by
      obtain ⟨billing, hbilling⟩ := (customer.exists_payloadAddress_iff customer.billing true).mpr
        fun h ↦ hnumber h.2
      obtain ⟨shipping, hshipping⟩ :=
        (customer.exists_payloadAddress_iff customer.shipping false).mpr fun h ↦ by cases h.1
      rw [payload_eq]
      refine (failsOnly_items hacceptable htotal).bind fun items _ ↦ ?_
      rw [hbilling, ok_bind, hshipping, ok_bind,
        ensureValid_of_isValid (isValid_payloadOf_iff.mpr hfields)]
      exact .ok _
    obtain ⟨operation, rfl⟩ := honly cause hcause
    exact hroom operation hcause
  · intro hany
    cases hresult : s.payload customer pending method with
    | error cause => exact ⟨cause, rfl⟩
    | ok p =>
      rw [payload_eq] at hresult
      simp only [bind_eq_ok, ensureValid_eq_ok] at hresult
      obtain ⟨items, hitems, billing, hbilling, shipping, -, hvalid, -⟩ := hresult
      obtain ⟨built, extra, hbuilt, -, -⟩ := items_eq_ok.mp hitems
      rcases hany with hitem | htotal | hnumber | hfields
      · exact absurd hitem (not_hasUnacceptableItem_of_builtItems hbuilt)
      · exact absurd htotal (not_missesTotal_of_items hitems)
      · exact absurd ⟨rfl, hnumber⟩
          ((customer.exists_payloadAddress_iff customer.billing true).mp ⟨billing, hbilling⟩)
      · exact absurd hfields (isValid_payloadOf_iff.mp hvalid)

/-- A hat without a label. -/
def unlabelledSale : Sale :=
  shopSale true
    (shopOrder [{ shopItem "hat" .product (.ofUInt32 20) [] with label := none }] 0 []
      (.ofUInt32 20))

theorem payload_fails_unlabelled :
    unlabelledSale.HasUnacceptableItem ∧
      ∃ cause, unlabelledSale.payload guest ⟨5, 2, "https://shop.example/finish"⟩ 77 =
        .error cause := by
  have hitem : unlabelledSale.HasUnacceptableItem := by
    refine ⟨_, List.mem_cons_self, by decide, by decide, .inr (.inl ⟨by decide, ?_⟩)⟩
    rintro label ⟨⟩
  have hroom (operation : Overflow) :
      unlabelledSale.payload guest ⟨5, 2, "https://shop.example/finish"⟩ 77 ≠
        .error (.overflow operation) := by
    intro hoverflow
    have hinvalid : unlabelledSale.payload guest ⟨5, 2, "https://shop.example/finish"⟩ 77 =
        .error (.invalid "LineItem" [.missing "name"]) := rfl
    cases hinvalid.symm.trans hoverflow
  exact ⟨hitem, (payload_fails unlabelledSale guest _ 77 hroom).mpr (.inl hitem)⟩

end Sale
end ShopPayments
