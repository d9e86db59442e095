import Mathlib.Algebra.BigOperators.Ring.Finset
import ShopPayments.Proofs.Gateway.UnitOffers
import ShopPayments.Proofs.Http.Spaces
import ShopPayments.Proofs.Http.UnitCount

/-!
# Units that are asked for in parts

Units of a line item can be asked for at once or in parts.  All checks look at units, which add up,
but the last one and the booking look at money, and every request rounds its own price to cents.  So
the parts book the sum of their rounded prices, as far as that is left, which can be half a cent off
for each of them; only a price in whole cents makes no difference (`replies_of_split`).
-/

namespace ShopPayments

/-! ## The units of a quantity -/

/-- The units that a signed quantity asks for. -/
def unitsOf (quantity : Int64) : UInt32 := UInt32.ofNat quantity.toInt.toNat

theorem toNat_unitsOf {quantity : Int64} {bound : UInt32} (hpositive : 0 < quantity.toInt)
    (h : quantity.toInt ≤ bound.toNat) : ((unitsOf quantity).toNat : ℤ) = quantity.toInt := by
  have hle : quantity.toInt.toNat ≤ bound.toNat := by omega
  rw [unitsOf, toNat_ofNat_of_le hle]
  omega

section Parts

variable {parts : List Int64} {bound : UInt32}
  (hpositive : ∀ quantity ∈ parts, 0 < quantity.toInt)
  (hbound : (parts.map Int64.toInt).sum ≤ bound.toNat)
include hpositive hbound

theorem toNat_unitsOf_of_mem {quantity : Int64} (hquantity : quantity ∈ parts) :
    ((unitsOf quantity).toNat : ℤ) = quantity.toInt := by
  have hle : quantity.toInt ≤ (parts.map Int64.toInt).sum :=
    List.single_le_sum (List.forall_mem_map.mpr fun _ hpart ↦ (hpositive _ hpart).le) _
      (List.mem_map_of_mem hquantity)
  exact toNat_unitsOf (hpositive quantity hquantity) (hle.trans hbound)

theorem totalUnits_map_unitsOf :
    (totalUnits (parts.map unitsOf) : ℤ) = (parts.map Int64.toInt).sum := by
  rw [totalUnits, Nat.cast_list_sum, List.map_map, List.map_map]
  congr 1
  exact List.map_congr_left fun _ hquantity ↦ toNat_unitsOf_of_mem hpositive hbound hquantity

theorem unitsOf_pos_of_mem : ∀ units ∈ parts.map unitsOf, 0 < units.toNat := by
  rw [List.forall_mem_map]
  intro quantity hquantity
  have hunits := toNat_unitsOf_of_mem hpositive hbound hquantity
  have hsign := hpositive quantity hquantity
  omega

end Parts

theorem Gateway.Offers.toNat_unitsOf {g : Gateway} {space : UInt64} {t : Transaction}
    {item : TransactionItem} {count : ℕ} (h : g.Offers space t item count) {quantity : Int64}
    (hpositive : 0 < quantity.toInt) (hcount : quantity.toInt ≤ count) :
    ((unitsOf quantity).toNat : ℤ) = quantity.toInt := by
  have hcounted := h.counted
  have hbound : quantity.toInt ≤ item.quantity.toNat := by omega
  exact ShopPayments.toNat_unitsOf hpositive hbound

namespace Http

/-! ## The endpoint for units -/

/-- The body asks for units of a line item of a transaction in a space. -/
structure UnitsBody.AsksFor (b : UnitsBody) (file : SettingsFile) (space : UInt64) (t : Transaction)
    (item : TransactionItem) : Prop where
  resolved : ∃ settings, file.resolve b.channel = .ok settings ∧ settings.spaceId = space
  transaction_eq : b.transaction = t.id
  item_eq : b.item = item.uniqueId

section

variable {b : UnitsBody} {file : SettingsFile} {g after : Gateway} {token : String}
  {space : UInt64} {t : Transaction} {item : TransactionItem} {count places : ℕ}

/-- The handler of units succeeds exactly if every one of its steps does. -/
theorem UnitsBody.run_eq_ok :
    b.run file g token = .ok after ↔
      ∃ settings t left request refund,
        0 < b.quantity.toInt ∧ file.resolve b.channel = .ok settings ∧
          g.transaction? settings.spaceId b.transaction = some t ∧
          t.refundableUnits (g.refundsOf settings.spaceId t.id) b.item = .ok left ∧
          b.quantity.toInt ≤ left.toNat ∧
          RefundRequest.ofUnits t token b.item (unitsOf b.quantity) = .ok (some request) ∧
          g.createRefund settings.spaceId request = .ok (refund, after) := by
  have hsign : ¬ b.quantity ≤ 0 ↔ 0 < b.quantity.toInt := by
    rw [Int64.le_iff_toInt_le, not_le]
    rfl
  unfold UnitsBody.run UnitsBody.decide
  simp only [guard_eq_ok, bind_eq_ok, liftFailure_eq_ok, ofOverflow_eq_ok, pure_eq_ok, Prod.exists,
    hsign, not_lt]
  constructor
  · rintro ⟨hquantity, space, t, hload, request, ⟨left, hleft, hfits, built, hbuilt, h⟩, refund,
      after', hcreate, rfl⟩
    obtain ⟨settings, hsettings, rfl, ht⟩ := load_eq_ok.mp hload
    cases built with
    | none => cases h
    | some built =>
      obtain rfl : built = request := pure_eq_ok.mp h
      exact ⟨settings, t, left, built, refund, hquantity, hsettings, ht, hleft, hfits, hbuilt,
        hcreate⟩
  · rintro ⟨settings, t, left, request, refund, hquantity, hsettings, ht, hleft, hfits, hrequest,
      hcreate⟩
    exact ⟨hquantity, settings.spaceId, t, load_eq_ok.mpr ⟨settings, hsettings, rfl, ht⟩, request,
      ⟨left, hleft, hfits, some request, hrequest, rfl⟩, refund, after, hcreate, rfl⟩

/-- A request for units on offer reaches the gateway. -/
theorem UnitsBody.exists_request (hasks : b.AsksFor file space t item)
    (hoffers : g.Offers space t item count) (hpositive : 0 < b.quantity.toInt)
    (hcount : b.quantity.toInt ≤ count) (token : String) :
    ∃ request, request.Names t none [⟨item.uniqueId, unitsOf b.quantity, 0⟩] ∧
      ∀ after, b.run file g token = .ok after ↔
        ∃ refund, g.createRefund space request = .ok (refund, after) := by
  obtain ⟨settings, hsettings, rfl⟩ := hasks.resolved
  have hunits := hoffers.toNat_unitsOf hpositive hcount
  have hsome : (unitsOf b.quantity).toNat ≤ count := by omega
  obtain ⟨left, hleft, hfits⟩ := hoffers.exists_refundableUnits
  obtain ⟨request, hrequest, hnames⟩ := hoffers.exists_ofUnits hsome (by omega) token
  refine ⟨request, hnames, fun after ↦ ?_⟩
  rw [run_eq_ok, hasks.transaction_eq, hasks.item_eq]
  constructor
  · rintro ⟨settings', t', -, request', refund, -, hsettings', ht', -, -, hrequest', hcreate⟩
    obtain rfl := Except.ok.inj (hsettings.symm.trans hsettings')
    obtain rfl := Option.some.inj (hoffers.found.symm.trans ht')
    obtain rfl := Option.some.inj (Except.ok.inj (hrequest.symm.trans hrequest'))
    exact ⟨refund, hcreate⟩
  · rintro ⟨refund, hcreate⟩
    exact ⟨settings, t, left, request, refund, hpositive, hsettings, hoffers.found, hleft,
      hcount.trans (by exact_mod_cast hfits), hrequest, hcreate⟩

/-- A handler that succeeds shows that the units were on offer. -/
theorem UnitsBody.offers_of_run (hasks : b.AsksFor file space t item)
    (ht : g.transaction? space t.id = some t) (hitem : t.item? item.uniqueId = some item)
    (hroom : t.HasRoomAt places) (hprice : 0 ≤ item.unitPrice.toRat)
    (h : b.run file g token = .ok after) :
    0 < b.quantity.toInt ∧ g.Offers space t item b.quantity.toInt.toNat := by
  obtain ⟨settings, hsettings, rfl⟩ := hasks.resolved
  rw [run_eq_ok, hasks.transaction_eq, hasks.item_eq] at h
  obtain ⟨settings', t', left, request, refund, hpositive, hsettings', ht', hleft, hfits, hbuilt,
    hcreate⟩ := h
  obtain rfl := Except.ok.inj (hsettings.symm.trans hsettings')
  obtain rfl := Option.some.inj (ht.symm.trans ht')
  have hleft' := Transaction.toNat_of_refundableUnits hitem hleft
  have hunits := toNat_unitsOf hpositive hfits
  obtain ⟨item', hitem', full, hfull, hfulfilled, hauthorized, hrequest⟩ :=
    RefundRequest.ofUnits_eq_ok.mp hbuilt
  obtain rfl := Option.some.inj (hitem.symm.trans hitem')
  rw [RefundRequest.unitsReduction_of_pos (by omega)] at hfull hrequest
  obtain ⟨hid, hnamed⟩ := RefundRequest.exists_forTransaction_iff.mp ⟨request, hrequest⟩
  have hquantity : unitsOf b.quantity ≤ item.quantity := by
    rw [UInt32.le_iff_toNat_le]
    omega
  obtain ⟨total, hreturns⟩ := Gateway.returns_of_createRefund ht hitem
    (RefundRequest.names_of_forTransaction hrequest) hquantity hfull hcreate
  have hcents := room_of_unitsPrice hfull (hroom.hundredths_lt (hreturns.fits hroom))
  obtain ⟨request', -, hbooked⟩ := hreturns.booked
  refine ⟨hpositive, ht, hitem, hid, by simpa using hnamed, hfulfilled, hbooked.supported,
    by omega, fun units hsome ↦ ?_⟩
  have hle : units.toNat ≤ (unitsOf b.quantity).toNat := by omega
  have hwhole : (unitsOf b.quantity).toNat * item.unitPrice.toRat ≤
      Decimal.magnitudeBound - 1 := by
    norm_num [Decimal.magnitudeBound] at hcents ⊢
    linarith
  obtain ⟨part, hpart, hless⟩ := exists_mul_units_le hprice hle hwhole hfull
  refine ⟨part, hpart, Decimal.le_iff_toRat_le.mpr ?_⟩
  exact (Decimal.le_iff_toRat_le.mp hless).trans (Decimal.le_iff_toRat_le.mp hauthorized)

end

/-! ## Requests -/

/-- The request asks for units of a line item. -/
structure Request.AsksUnits (r : Request) (b : UnitsBody) : Prop where
  endpoint_at : Endpoint.at? (pathOf r.path) = some .units
  method_eq : r.method = "POST"
  isJson : r.isJson = true
  parsed : (Json.parse r.body : Except Misread UnitsBody) = .ok b

theorem handle_of_asksUnits {r : Request} {b : UnitsBody} (h : r.AsksUnits b)
    (file : SettingsFile) (g : Gateway) (token : String) :
    handle file g token r =
      match b.run file g token with
      | .ok after => (.response ⟨204, some ""⟩, after)
      | .error rejection => (rejection.reply, g) :=
  (handle_eq_answer h.endpoint_at h.method_eq h.isJson file g token).trans
    (answer_of_parsed h.parsed _ g)

section

variable {r : Request} {b : UnitsBody} {file : SettingsFile} {g after : Gateway} {token : String}
  {space : UInt64} {t : Transaction} {item : TransactionItem} {count places : ℕ}

theorem status?_eq_iff_run (h : r.AsksUnits b) :
    (handle file g token r).1.status? = some 204 ↔
      b.run file g token = .ok (handle file g token r).2 := by
  rw [handle_of_asksUnits h]
  cases b.run file g token with
  | ok after => simp [Reply.status?]
  | error rejection => simpa using rejection.status?_reply

variable (hrequest : r.AsksUnits b) (hasks : b.AsksFor file space t item)
  (hoffers : g.Offers space t item count) (hpositive : 0 < b.quantity.toInt)
  (hcount : b.quantity.toInt ≤ count)
include hrequest hasks hoffers hpositive hcount

/-- A request for units on offer that is answered gives them back at their price. -/
theorem returns_of_answered (hanswered : (handle file g token r).1.status? = some 204) :
    ∃ total refund, g.Returns space t item (unitsOf b.quantity) total refund
      (handle file g token r).2 := by
  have hunits := hoffers.toNat_unitsOf hpositive hcount
  have hsome : (unitsOf b.quantity).toNat ≤ count := by omega
  obtain ⟨request, hnames, hrun⟩ := UnitsBody.exists_request hasks hoffers hpositive hcount token
  obtain ⟨refund, hcreate⟩ := (hrun _).mp ((status?_eq_iff_run hrequest).mp hanswered)
  obtain ⟨full, hfull, -⟩ := hoffers.priced (unitsOf b.quantity) hsome
  obtain ⟨total, hreturns⟩ := Gateway.returns_of_createRefund hoffers.found hoffers.item_eq hnames
    (hoffers.le_quantity hsome) hfull hcreate
  exact ⟨total, refund, hreturns⟩

/-- A request for units on offer is answered if their price is left. -/
theorem answered_of_fits (hnumber : g.sequence.toNat + 1 < UInt64.size)
    (hroom : t.HasRoomAt places) (hprice : 0 ≤ item.unitPrice.toRat)
    (hfits : t.refunded.toRat + unitsPrice item.unitPrice (unitsOf b.quantity) ≤ t.captured.toRat)
    (token : String) : (handle file g token r).1.status? = some 204 := by
  have hunits := hoffers.toNat_unitsOf hpositive hcount
  have hsome : (unitsOf b.quantity).toNat ≤ count := by omega
  obtain ⟨request, hnames, hrun⟩ := UnitsBody.exists_request hasks hoffers hpositive hcount token
  obtain ⟨refund, after, hcreate⟩ :=
    hoffers.exists_createRefund hnumber hroom hprice hnames hsome hfits
  rw [handle_of_asksUnits hrequest, (hrun after).mpr ⟨refund, hcreate⟩]
  rfl

end

/-! ## Parts -/

/-- Every request was answered with status 204. -/
def AllAnswered (replies : List Reply) : Prop := ∀ reply ∈ replies, reply.status? = some 204

/-- Parts of what is on offer are all answered exactly if the sum of their prices is left, and then
each one books its own price. -/
theorem replies_of_parts {file : SettingsFile} {g : Gateway} {b : UnitsBody} {space : UInt64}
    {t : Transaction} {item : TransactionItem} {count places : ℕ}
    (hasks : b.AsksFor file space t item) (hoffers : g.Offers space t item count)
    (hroom : t.HasRoomAt places) (hprice : 0 ≤ item.unitPrice.toRat)
    (hle : t.refunded.toRat ≤ t.captured.toRat) {parts : List Int64}
    {requests : List (String × Request)}
    (hparts : List.Forall₂ (fun c quantity ↦ c.2.AsksUnits { b with quantity }) requests parts)
    (hpositive : ∀ quantity ∈ parts, 0 < quantity.toInt)
    (hcount : (parts.map Int64.toInt).sum ≤ count)
    (hnumbers : g.sequence.toNat + requests.length < UInt64.size) :
    (AllAnswered (replies file g requests) ↔
        t.refunded.toRat + partsPrice item.unitPrice (parts.map unitsOf) ≤ t.captured.toRat) ∧
      (AllAnswered (replies file g requests) →
        ∃ booked, (serve file g requests).refundsOf space t.id = g.refundsOf space t.id ++ booked ∧
          booked.map (·.amount.toRat) =
            (parts.map unitsOf).map (unitsPrice item.unitPrice)) := by
  induction hparts generalizing g t count with
  | nil => exact ⟨by simpa [AllAnswered, replies] using hle, fun _ ↦ ⟨[], by simp [serve]⟩⟩
  | @cons c quantity requests parts hfirst _ ih =>
    rw [List.map_cons, List.sum_cons] at hcount
    rw [List.length_cons] at hnumbers
    obtain ⟨hquantity, hpositive⟩ := List.forall_mem_cons.mp hpositive
    have hrest : 0 ≤ (parts.map Int64.toInt).sum :=
      List.sum_nonneg (List.forall_mem_map.mpr fun _ hpart ↦ (hpositive _ hpart).le)
    have hunits : ((unitsOf quantity).toNat : ℤ) = quantity.toInt :=
      hoffers.toNat_unitsOf hquantity (by omega)
    have hothers := partsPrice_nonneg hprice (parts.map unitsOf)
    have hpart : ({ b with quantity } : UnitsBody).AsksFor file space t item :=
      ⟨hasks.resolved, hasks.transaction_eq, hasks.item_eq⟩
    have hsome : ({ b with quantity } : UnitsBody).quantity.toInt ≤ count := by
      dsimp only
      omega
    have hall : AllAnswered (replies file g (c :: requests)) ↔
        (handle file g c.1 c.2).1.status? = some 204 ∧
          AllAnswered (replies file (handle file g c.1 c.2).2 requests) := List.forall_mem_cons
    rw [hall, serve, List.foldl_cons, List.map_cons, partsPrice_cons]
    by_cases hanswered : (handle file g c.1 c.2).1.status? = some 204
    · obtain ⟨total, refund, hreturns⟩ :=
        returns_of_answered hfirst hpart hoffers hquantity hsome hanswered
      have htotal : total.toRat = t.refunded.toRat + unitsPrice item.unitPrice (unitsOf quantity) :=
        hreturns.toRat_total hroom hprice
      have hsequence := hreturns.toNat_sequence_after
      have hasks' : b.AsksFor file space { t with refunded := total } item :=
        ⟨hasks.resolved, hasks.transaction_eq, hasks.item_eq⟩
      have hoffers' : (handle file g c.1 c.2).2.Offers space { t with refunded := total } item
          (parts.map Int64.toInt).sum.toNat := hreturns.offers_after hoffers (by dsimp only; omega)
      obtain ⟨hreplies, hbooked⟩ := ih hasks' hoffers' (hreturns.hasRoomAt_after hroom hprice)
        (htotal ▸ hreturns.fits hroom) hpositive (by omega) (by omega)
      rw [and_iff_right hanswered]
      refine ⟨by rw [hreplies, htotal, add_assoc], fun hrest ↦ ?_⟩
      obtain ⟨booked, hrefunds, hamounts⟩ := hbooked hrest
      refine ⟨refund :: booked, ?_, ?_⟩
      · rw [serve, hreturns.refundsOf_after, List.append_assoc] at hrefunds
        exact hrefunds
      · rw [List.map_cons, List.map_cons, hamounts, hreturns.amount_eq]
    · refine ⟨⟨fun h ↦ absurd h.1 hanswered, fun hfits ↦ absurd ?_ hanswered⟩,
        fun h ↦ absurd h.1 hanswered⟩
      exact answered_of_fits hfirst hpart hoffers hquantity hsome (by omega) hroom hprice
        (by dsimp only; linarith) c.1

/-- **Units that are asked for in parts are refunded by the sum of their own prices**, each rounded
to cents.  Where a request is answered, amounts have room at some number of places and there are
numbers for the refunds, requests for parts of its units are answered exactly as long as that sum is
left.  It differs from the amount of the one request by at most half a cent for each of them, and
not at all if the unit price is in whole cents; then the parts are always answered. -/
theorem replies_of_split (file : SettingsFile) {g : Gateway} (hkeyed : g.Keyed) (token : String)
    {r : Request} {b : UnitsBody} (hasks : r.AsksUnits b)
    (hanswered : (handle file g token r).1.status? = some 204) {settings : Settings}
    (hsettings : file.resolve b.channel = .ok settings) {t : Transaction}
    (ht : g.transaction? settings.spaceId b.transaction = some t) {item : TransactionItem}
    (hitem : t.item? b.item = some item) (hprice : 0 ≤ item.unitPrice) {places : ℕ}
    (hroom : t.HasRoomAt places) {parts : List Int64} {requests : List (String × Request)}
    (hparts : List.Forall₂ (fun c quantity ↦ c.2.AsksUnits { b with quantity }) requests parts)
    (hpositive : ∀ quantity ∈ parts, 0 < quantity)
    (hsum : (parts.map Int64.toInt).sum = b.quantity.toInt)
    (hnumbers : g.sequence.toNat + requests.length < UInt64.size) :
    let prices := (parts.map unitsOf).map (unitsPrice item.unitPrice)
    let worth : ℚ := b.quantity.toInt * item.unitPrice.toRat
    ∃ refund, (handle file g token r).2.refundsOf settings.spaceId b.transaction =
        g.refundsOf settings.spaceId b.transaction ++ [refund] ∧
      (AllAnswered (replies file g requests) ↔
        prices.sum ≤ t.captured.toRat - t.refunded.toRat) ∧
      (AllAnswered (replies file g requests) →
        ∃ booked, (serve file g requests).refundsOf settings.spaceId b.transaction =
            g.refundsOf settings.spaceId b.transaction ++ booked ∧
          booked.map (·.amount.toRat) = prices) ∧
      |prices.sum - refund.amount.toRat| ≤
        (parts.length + 1) / 200 + 3 * (parts.length + 1 + 2 * worth) / 10 ^ 28 ∧
      (worth ≤ 10 ^ 24 →
        |prices.sum - refund.amount.toRat| ≤ ((parts.length + 1) / 2 : ℕ) / 100) ∧
      (Money.IsCents item.unitPrice.toRat →
        AllAnswered (replies file g requests) ∧ prices.sum = refund.amount.toRat) := by
  have hid := hkeyed.id_eq ht
  have hname := Transaction.uniqueId_of_item? hitem
  have hprice' := (Decimal.toRat_nonneg_iff _).mp hprice
  have hpositive' : ∀ quantity ∈ parts, 0 < quantity.toInt :=
    fun quantity hquantity ↦ Int64.lt_iff_toInt_lt.mp (hpositive quantity hquantity)
  have hnames : b.AsksFor file settings.spaceId t item :=
    ⟨⟨settings, hsettings, rfl⟩, hid.symm, hname.symm⟩
  rw [← hname] at hitem
  rw [← hid] at ht ⊢
  obtain ⟨hasked, hoffers⟩ := UnitsBody.offers_of_run hnames ht hitem hroom hprice'
    ((status?_eq_iff_run hasks).mp hanswered)
  have hall : b.quantity.toInt ≤ b.quantity.toInt.toNat := Int.self_le_toNat _
  obtain ⟨total, refund, hreturns⟩ :=
    returns_of_answered hasks hnames hoffers hasked hall hanswered
  have hfits := hreturns.fits hroom
  have hunits := hoffers.toNat_unitsOf hasked hall
  have hnonneg := unitsPrice_nonneg hprice' (unitsOf b.quantity)
  obtain ⟨full, hfull, -⟩ := hoffers.priced (unitsOf b.quantity) (by omega)
  have hcents := room_of_unitsPrice hfull (hroom.hundredths_lt hfits)
  have hcount := hsum.trans_le hall
  have hbound : (parts.map Int64.toInt).sum ≤ item.quantity.toNat := by
    have hcounted := hoffers.counted
    omega
  have htotal : totalUnits (parts.map unitsOf) = (unitsOf b.quantity).toNat := by
    have hparts := totalUnits_map_unitsOf hpositive' hbound
    omega
  have hexact : (b.quantity.toInt : ℚ) = (unitsOf b.quantity).toNat := by
    exact_mod_cast hunits.symm
  obtain ⟨hreplies, hbooked⟩ := replies_of_parts hnames hoffers hroom hprice' (by linarith) hparts
    hpositive' hcount hnumbers
  have hleft : t.refunded.toRat + partsPrice item.unitPrice (parts.map unitsOf) ≤
      t.captured.toRat ↔
      partsPrice item.unitPrice (parts.map unitsOf) ≤ t.captured.toRat - t.refunded.toRat :=
    le_sub_iff_add_le'.symm
  refine ⟨refund, hreturns.refundsOf_after, hreplies.trans hleft, hbooked, ?_, ?_, ?_⟩
  · have hnear := abs_partsPrice_sub_unitsPrice_le hprice' hfull hcents htotal
    rwa [List.length_map, ← hreturns.amount_eq, ← hexact] at hnear
  · intro hsmall
    rw [hexact] at hsmall
    have hnear := abs_partsPrice_sub_unitsPrice_le_half hprice' hfull hcents htotal
      (unitsOf_pos_of_mem hpositive' hbound) hsmall
    rwa [List.length_map, ← hreturns.amount_eq] at hnear
  · intro hwhole
    have hsame := partsPrice_eq_unitsPrice hprice' hfull hcents htotal hwhole
    exact ⟨hreplies.mpr (hsame ▸ hfits), hsame.trans hreturns.amount_eq.symm⟩

/-- Two hats of a price. -/
def twoHats (price captured refunded : Decimal) : Transaction :=
  { hatAndSock with captured, refunded, items := [{ hat with quantity := 2, unitPrice := price }] }

/-- A half of 6.67. -/
def halfPrice : Decimal := .signed false 3335 3 (by decide) Decimal.three_le_maxScale

/-- Two requests for one hat each. -/
def hatByHat : List (String × Request) := [("first", refundHat), ("second", refundHat)]

theorem asksUnits_of_fields {r : Request} {b : UnitsBody}
    (hendpoint : Endpoint.at? (pathOf r.path) = some .units) (hmethod : r.method = "POST")
    (hjson : r.isJson = true)
    (h : (Json.parse r.body : Except Misread UnitsBody).toOption.map
      (fun b ↦ (b.channel, b.transaction, b.quantity, b.item)) =
        some (b.channel, b.transaction, b.quantity, b.item)) : r.AsksUnits b := by
  obtain ⟨b', hb', hfields⟩ := Option.map_eq_some_iff.mp h
  obtain rfl : b' = b := by
    cases b'
    cases b
    simpa using hfields
  refine ⟨hendpoint, hmethod, hjson, ?_⟩
  cases hparsed : (Json.parse r.body : Except Misread UnitsBody) with
  | error misread => simp [hparsed, Except.toOption] at hb'
  | ok b => simpa [hparsed, Except.toOption] using hb'

theorem asksUnits_refundTwoHats : refundTwoHats.AsksUnits ⟨none, 42, 2, "hat"⟩ :=
  asksUnits_of_fields (by decide +kernel) rfl (by decide +kernel) (by decide +kernel)

theorem asksUnits_refundHat : refundHat.AsksUnits ⟨none, 42, 1, "hat"⟩ :=
  asksUnits_of_fields (by decide +kernel) rfl (by decide +kernel) (by decide +kernel)

theorem unitsPrice_halfPrice : unitsPrice halfPrice 1 = 334 / 100 := by
  have hround : Money.round halfPrice = .signed false 334 2 (by decide) (by decide) := by
    decide +kernel
  rw [unitsPrice_of_mul (by decide +kernel : (Decimal.ofUInt32 1).mul halfPrice = .ok halfPrice),
    hround]
  norm_num [Decimal.toRat_signed]

/-- Two hats of 3.335 each are refunded one by one, by at most a cent more than both at once. -/
theorem replies_of_split_twoHats :
    let g := Gateway.holding (twoHats halfPrice (.ofUInt32 60) 0)
    AllAnswered (replies oneSpace g hatByHat) ∧
      ∃ refund, (handle oneSpace g "both" refundTwoHats).2.refundsOf 1 42 = [refund] ∧
        |668 / 100 - refund.amount.toRat| ≤ 1 / 100 := by
  intro g
  let t := twoHats halfPrice (.ofUInt32 60) 0
  have hprice : halfPrice.toRat = 3335 / 1000 := by norm_num [halfPrice, Decimal.toRat_signed]
  have hcaptured : t.captured.toRat = 60 := Decimal.toRat_ofUInt32 60
  have hrefunded : t.refunded.toRat = 0 := Decimal.toRat_zero
  have hroom : t.HasRoomAt Money.places := by
    refine ⟨le_rfl, Money.places_le_maxScale,
      Money.isCents_iff_hasPlaces.mp (Money.isCents_of_scale_le (by decide)),
      Money.isCents_iff_hasPlaces.mp (Money.isCents_of_scale_le (by decide)), ?_, ?_, ?_⟩
    all_goals norm_num [hcaptured, hrefunded, Money.places, Decimal.magnitudeBound]
  let both : UnitsBody := ⟨none, 42, 2, "hat"⟩
  have hparts : List.Forall₂ (fun c quantity ↦ c.2.AsksUnits { both with quantity }) hatByHat
      [1, 1] :=
    .cons asksUnits_refundHat (.cons asksUnits_refundHat .nil)
  have hprices : ([1, 1] : List Int64).map unitsOf = [1, 1] := by decide
  obtain ⟨refund, hrefunds, hall, -, -, hnear, -⟩ :=
    replies_of_split oneSpace (Gateway.keyed_holding t) "both" asksUnits_refundTwoHats
      (by decide +kernel) rfl (rfl : g.transaction? 1 42 = some t) rfl (by decide +kernel) hroom
      hparts (by simp) rfl (by decide)
  have hsum : ((([1, 1] : List Int64).map unitsOf).map (unitsPrice halfPrice)).sum = 668 / 100 := by
    rw [hprices, List.map_cons, List.map_cons, List.map_nil, unitsPrice_halfPrice]
    norm_num
  have hitem : ({ hat with quantity := 2, unitPrice := halfPrice } : TransactionItem).unitPrice =
      halfPrice := rfl
  rw [hitem, hsum] at hall hnear
  have hleft : (668 / 100 : ℚ) ≤ t.captured.toRat - t.refunded.toRat := by
    rw [hcaptured, hrefunded]
    norm_num
  have htwo : both.quantity.toInt = 2 := rfl
  have hsmall : (both.quantity.toInt : ℚ) * halfPrice.toRat ≤ 10 ^ 24 := by
    rw [htwo, hprice]
    norm_num
  exact ⟨hall.mpr hleft, refund, hrefunds, by simpa using hnear hsmall⟩

/-- Two hats of half an odd number of cents are worth a cent more one by one, which may be more than
what is left.  Where there is only one number left, or what is left is not kept exactly, the second
one fails although its price has whole cents. -/
theorem hatByHat_ne_twoHats :
    let halves := Gateway.holding (twoHats halfPrice (.ofUInt32 60) 0)
    let paid := Gateway.holding
      (twoHats halfPrice (.signed false 667 2 (by decide) (by decide)) 0)
    let lastNumber := { Gateway.holding (twoHats (.ofUInt32 4) (.ofUInt32 60) 0) with
      sequence := 18446744073709551614 }
    let inexact := Gateway.holding
      (twoHats (.ofUInt32 4) (.ofUInt32 8) (.signed false 1 28 (by decide) (by decide)))
    (((handle oneSpace halves "both" refundTwoHats).2.refundsOf 1 42).map (·.amount) =
        [.signed false 667 2 (by decide) (by decide)] ∧
      ((serve oneSpace halves hatByHat).refundsOf 1 42).map (·.amount) =
        [.signed false 334 2 (by decide) (by decide),
          .signed false 334 2 (by decide) (by decide)]) ∧
    ∀ g ∈ [paid, lastNumber, inexact],
      (handle oneSpace g "both" refundTwoHats).1.status? = some 204 ∧
        ¬ AllAnswered (replies oneSpace g hatByHat) := by
  refine ⟨⟨by decide +kernel, by decide +kernel⟩, ?_⟩
  unfold AllAnswered
  decide +kernel

end Http
end ShopPayments
