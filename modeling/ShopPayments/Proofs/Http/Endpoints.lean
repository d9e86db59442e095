import ShopPayments.Http.RefundApi
import ShopPayments.Proofs.Gateway.Keys
import ShopPayments.Proofs.Refund.Requests

/-!
# What the refund endpoints do

A request to an endpoint either leaves the gateway as it was or books exactly one refund, which
the endpoint asked for after its own check (`handle_cases`): units that are left of the line item,
an amount that is left of the transaction, or a part of at most the value of the line item.  The
state after a sequence of requests extends the first one.
-/

namespace ShopPayments

theorem toNat_ofNat_of_le {n : ℕ} {bound : UInt32} (h : n ≤ bound.toNat) :
    (UInt32.ofNat n).toNat = n := by
  rw [UInt32.toNat_ofNat']
  exact Nat.mod_eq_of_lt (h.trans_lt bound.toNat_lt)

theorem Gateway.transaction_eq_ok {g : Gateway} {space id : UInt64} {t : Transaction} :
    g.transaction space id = .ok t ↔ g.transaction? space id = some t := by
  unfold transaction
  cases g.transaction? space id <;> simp

theorem Gateway.submit_eq_ok {g after : Gateway} {space : UInt64} {request : Option RefundRequest}
    {refund : Option Refund} (h : g.submit space request = .ok (refund, after)) :
    (request = none ∧ refund = none ∧ after = g) ∨
      ∃ built booked, request = some built ∧ refund = some booked ∧
        g.createRefund space built = .ok (booked, after) := by
  unfold Gateway.submit at h
  cases request with
  | none =>
    obtain ⟨rfl, rfl⟩ := Prod.mk.inj (Except.ok.inj h)
    exact Or.inl ⟨rfl, rfl, rfl⟩
  | some built =>
    simp only [bind_eq_ok, pure_eq_ok, Prod.exists, Prod.mk.injEq] at h
    obtain ⟨booked, after', hcreate, rfl, rfl⟩ := h
    exact Or.inr ⟨built, booked, rfl, rfl, hcreate⟩

namespace Http

/-! ## What an endpoint asks for -/

/-- The endpoint asks the gateway for a refund of a transaction with the given refunds. -/
inductive Endpoint.Asks (t : Transaction) (refunds : List Refund) (request : RefundRequest) :
    Endpoint → Prop
  | units (item : TransactionItem) (units left : UInt32)
      (found : t.item? item.uniqueId = some item)
      (positive : 0 < units.toNat)
      (counted : t.refundableUnits refunds item.uniqueId = .ok left)
      (fits : units ≤ left)
      (names : request.Names t none [⟨item.uniqueId, units, 0⟩]) : Asks t refunds request .units
  | amount (amount : Amount) (left : Decimal)
      (counted : t.refundableAmount = .ok left)
      (fits : amount.value ≤ left)
      (names : request.Names t (some (Money.round amount.value)) []) :
      Asks t refunds request .amount
  | part (item : TransactionItem) (amount : Amount) (value : Decimal)
      (nonempty : 0 < item.quantity.toNat)
      (found : t.item? item.uniqueId = some item)
      (priced : item.unitPrice.mul (.ofUInt32 item.quantity) = .ok value)
      (fits : amount.value ≤ value)
      (names : request.Names t none
        [⟨item.uniqueId, 0, amount.value.divCount item.quantity.toNat nonempty⟩]) :
      Asks t refunds request .part

theorem Endpoint.Asks.transaction_eq {t : Transaction} {refunds : List Refund}
    {request : RefundRequest} {endpoint : Endpoint} (h : endpoint.Asks t refunds request) :
    request.transaction = t.id := by
  cases h with
  | units _ _ _ _ _ _ _ names => exact names.transaction_eq
  | amount _ _ _ _ names => exact names.transaction_eq
  | part _ _ _ _ _ _ _ names => exact names.transaction_eq

theorem load_eq_ok {file : SettingsFile} {g : Gateway} {channel : Option String} {id space : UInt64}
    {t : Transaction} :
    load file g channel id = .ok (space, t) ↔
      ∃ settings, file.resolve channel = .ok settings ∧ settings.spaceId = space ∧
        g.transaction? space id = some t := by
  unfold load
  simp only [bind_eq_ok, pure_eq_ok, Gateway.transaction_eq_ok, Prod.mk.injEq]
  constructor
  · rintro ⟨settings, hsettings, t', ht', rfl, rfl⟩
    exact ⟨settings, hsettings, rfl, ht'⟩
  · rintro ⟨settings, hsettings, rfl, ht⟩
    exact ⟨settings, hsettings, t, ht, rfl, rfl⟩

/-- The request asks for the units of a body, which are left of its line item. -/
theorem UnitsBody.decide_eq_ok {b : UnitsBody} {t : Transaction} {refunds : List Refund}
    {token : String} {request : RefundRequest} (hquantity : ¬ b.quantity ≤ 0)
    (h : b.decide t refunds token = .ok request) :
    ∃ item left, ∃ units : UInt32, (units.toNat : ℤ) = b.quantity.toInt ∧
      t.item? b.item = some item ∧ t.refundableUnits refunds b.item = .ok left ∧ units ≤ left ∧
      request.Names t none [⟨b.item, units, 0⟩] := by
  unfold UnitsBody.decide at h
  simp only [bind_eq_ok, liftFailure_eq_ok, ofOverflow_eq_ok, guard_eq_ok] at h
  obtain ⟨left, hleft, hfits, built, hbuilt, h⟩ := h
  have hpositive : 0 < b.quantity.toInt := by
    rw [Int64.le_iff_toInt_le, not_le] at hquantity
    exact hquantity
  have hle : b.quantity.toInt.toNat ≤ left.toNat := by omega
  have hunits := toNat_ofNat_of_le hle
  cases built with
  | none => cases h
  | some built =>
    obtain rfl : built = request := pure_eq_ok.mp h
    have hne : UInt32.ofNat b.quantity.toInt.toNat ≠ 0 := by
      intro hzero
      rw [hzero, UInt32.toNat_zero] at hunits
      omega
    obtain ⟨item, hitem, hnames⟩ := RefundRequest.names_of_ofUnits hne hbuilt
    refine ⟨item, left, _, ?_, hitem, hleft, ?_, hnames⟩
    · rw [hunits]
      omega
    · rw [UInt32.le_iff_toNat_le, hunits]
      exact hle

theorem UnitsBody.asks_of_decide {b : UnitsBody} {t : Transaction} {refunds : List Refund}
    {token : String} {request : RefundRequest} (hquantity : ¬ b.quantity ≤ 0)
    (h : b.decide t refunds token = .ok request) : Endpoint.units.Asks t refunds request := by
  obtain ⟨item, left, units, hunits, hitem, hleft, hfits, hnames⟩ := decide_eq_ok hquantity h
  have hid := Transaction.uniqueId_of_item? hitem
  rw [← hid] at hitem hleft hnames
  refine .units item units left hitem ?_ hleft hfits hnames
  rw [Int64.le_iff_toInt_le, not_le] at hquantity
  have hzero : Int64.toInt 0 = 0 := rfl
  omega

theorem Endpoint.asks_of_ofPart {t : Transaction} {refunds : List Refund} {token itemId : String}
    {amount : Amount} {request : RefundRequest}
    (h : RefundRequest.ofPart t token itemId amount.value = .ok (some request)) :
    Endpoint.part.Asks t refunds request := by
  obtain ⟨item, value, hquantity, hitem, hvalue, hfits, hnames⟩ := RefundRequest.names_of_ofPart h
  have hid := Transaction.uniqueId_of_item? hitem
  rw [← hid] at hitem hnames
  exact .part item amount value hquantity hitem hvalue hfits hnames

/-! ## What comes of a request -/

/-- The gateway booked what an endpoint asked of it. -/
structure Endpoint.Books (endpoint : Endpoint) (g : Gateway) (space : UInt64) (t : Transaction)
    (request : RefundRequest) (total : Decimal) (refund : Refund) (after : Gateway) : Prop where
  asks : endpoint.Asks t (g.refundsOf space t.id) request
  booked : g.Booked space request t total refund after

/-- The gateway booked one refund on a transaction of a space, which the endpoint asked of it. -/
def Endpoint.BooksAt (endpoint : Endpoint) (g : Gateway) (space id : UInt64) (after : Gateway) :
    Prop :=
  ∃ t request total refund, request.transaction = id ∧
    endpoint.Books g space t request total refund after

/-- The gateway booked one refund, which the endpoint asked of it. -/
def Endpoint.BooksOne (endpoint : Endpoint) (g after : Gateway) : Prop :=
  ∃ space t request total refund, endpoint.Books g space t request total refund after

theorem Endpoint.BooksAt.booksOne {endpoint : Endpoint} {g after : Gateway} {space id : UInt64}
    (h : endpoint.BooksAt g space id after) : endpoint.BooksOne g after := by
  obtain ⟨t, request, total, refund, -, hbooks⟩ := h
  exact ⟨space, t, request, total, refund, hbooks⟩

/-- A transaction that was read under its key is the one that a request for it is booked on. -/
theorem booksAt_of_createRefund {g after : Gateway} {space id : UInt64} {t : Transaction}
    {request : RefundRequest} {refund : Refund} {endpoint : Endpoint} (hkeyed : g.Keyed)
    (ht : g.transaction? space id = some t)
    (hasks : endpoint.Asks t (g.refundsOf space t.id) request)
    (h : g.createRefund space request = .ok (refund, after)) :
    endpoint.BooksAt g space id after := by
  obtain ⟨t', total, hbooked⟩ := Gateway.booked_of_createRefund h
  have hid : request.transaction = id := hasks.transaction_eq.trans (hkeyed.id_eq ht)
  have hsame : t' = t := by
    have hfound := hbooked.found
    rw [hid, ht] at hfound
    exact (Option.some.inj hfound).symm
  exact ⟨t, request, total, refund, hid, hasks, hsame ▸ hbooked⟩

theorem UnitsBody.booksAt_of_run {b : UnitsBody} {file : SettingsFile} {g after : Gateway}
    {token : String} (hkeyed : g.Keyed) (h : b.run file g token = .ok after) :
    ∃ settings, file.resolve b.channel = .ok settings ∧
      Endpoint.units.BooksAt g settings.spaceId b.transaction after := by
  unfold UnitsBody.run at h
  simp only [guard_eq_ok, bind_eq_ok, liftFailure_eq_ok, pure_eq_ok, Prod.exists] at h
  obtain ⟨hquantity, space, t, hload, request, hdecide, refund, after', hcreate, rfl⟩ := h
  obtain ⟨settings, hsettings, rfl, ht⟩ := load_eq_ok.mp hload
  have hasks := asks_of_decide hquantity hdecide
  exact ⟨settings, hsettings, booksAt_of_createRefund hkeyed ht hasks hcreate⟩

theorem AmountBody.positive_eq_some {b : AmountBody} {amount : Amount} :
    (b.amount.bind fun d ↦ (Amount.ofDecimal d).toOption) = some amount ↔
      b.amount = some amount.value := by
  cases b.amount with
  | none => simp
  | some d =>
    simp only [Option.bind_some, Option.some.injEq, Amount.ofDecimal]
    split
    next hpositive =>
      simp only [Except.toOption, Option.some.injEq]
      exact ⟨fun h ↦ congrArg Amount.value h, fun h ↦ by cases amount; subst h; rfl⟩
    next hpositive =>
      simp only [Except.toOption, reduceCtorEq, false_iff]
      rintro rfl
      exact hpositive amount.positive

/-- The handler of a plain amount succeeds exactly if every one of its steps does. -/
theorem AmountBody.run_eq_ok {b : AmountBody} {file : SettingsFile} {g after : Gateway}
    {token : String} :
    b.run file g token = .ok after ↔
      ∃ (a : Amount) (settings : Settings) (t : Transaction) (left : Decimal)
        (request : RefundRequest) (refund : Refund),
        b.amount = some a.value ∧ file.resolve b.channel = .ok settings ∧
          g.transaction? settings.spaceId b.transaction = some t ∧
          t.refundableAmount = .ok left ∧ a.value ≤ left ∧
          RefundRequest.ofAmount t token a.value = .ok (some request) ∧
          g.createRefund settings.spaceId request = .ok (refund, after) := by
  unfold AmountBody.run
  constructor
  · intro h
    split at h
    next => cases h
    next a ha =>
      simp only [guard_eq_ok, bind_eq_ok, liftFailure_eq_ok, ofOverflow_eq_ok, Prod.exists] at h
      obtain ⟨space, t, hload, left, hleft, hfits, refund, after', hrefund, h⟩ := h
      obtain ⟨settings, hsettings, rfl, ht⟩ := load_eq_ok.mp hload
      unfold Gateway.refundAmount at hrefund
      rw [bind_eq_ok] at hrefund
      obtain ⟨request, hrequest, hsubmit⟩ := hrefund
      rcases Gateway.submit_eq_ok hsubmit with ⟨rfl, rfl, rfl⟩ | ⟨built, booked, rfl, rfl, hcreate⟩
      · cases h
      · obtain rfl : after' = after := pure_eq_ok.mp h
        exact ⟨a, settings, t, left, built, booked, positive_eq_some.mp ha, hsettings, ht, hleft,
          Decimal.not_lt_iff_le.mp hfits, hrequest, hcreate⟩
  · rintro ⟨a, settings, t, left, request, refund, ha, hsettings, ht, hleft, hfits, hrequest,
      hcreate⟩
    have hload : load file g b.channel b.transaction = .ok (settings.spaceId, t) :=
      load_eq_ok.mpr ⟨settings, hsettings, rfl, ht⟩
    have hnot : ¬ left < a.value := Decimal.not_lt_iff_le.mpr hfits
    simp only [positive_eq_some.mpr ha, hload, hleft, hnot, hrequest, hcreate, Failure.ofOverflow,
      Gateway.refundAmount, Gateway.submit, ok_bind, pure_eq, liftFailure_ok, if_false]

theorem AmountBody.booksAt_of_run {b : AmountBody} {file : SettingsFile} {g after : Gateway}
    {token : String} (hkeyed : g.Keyed) (h : b.run file g token = .ok after) :
    ∃ settings, file.resolve b.channel = .ok settings ∧
      Endpoint.amount.BooksAt g settings.spaceId b.transaction after := by
  obtain ⟨a, settings, t, left, request, refund, -, hsettings, ht, hleft, hfits, hrequest,
    hcreate⟩ := run_eq_ok.mp h
  have hasks : Endpoint.amount.Asks t (g.refundsOf settings.spaceId t.id) request :=
    .amount a left hleft hfits (RefundRequest.names_of_ofAmount hrequest)
  exact ⟨settings, hsettings, booksAt_of_createRefund hkeyed ht hasks hcreate⟩

/-- What a handler of a part that succeeds did: nothing, where nothing can be refunded of the line
item, or it booked a request for the amount of the body. -/
theorem PartBody.created_of_run {b : PartBody} {file : SettingsFile} {g after : Gateway}
    {token : String} (h : b.run file g token = .ok after) :
    ∃ (a : Amount) (settings : Settings) (t : Transaction), a.value = b.amount ∧
      file.resolve b.channel = .ok settings ∧
      g.transaction? settings.spaceId b.transaction = some t ∧
      (after = g ∨ ∃ request refund,
        RefundRequest.ofPart t token b.item a.value = .ok (some request) ∧
          g.createRefund settings.spaceId request = .ok (refund, after)) := by
  unfold PartBody.run at h
  split at h
  next => cases h
  next a ha =>
    have hvalue : a.value = b.amount := by
      unfold Amount.ofDecimal at ha
      split at ha
      · rw [← Except.ok.inj ha]
      · cases ha
    simp only [bind_eq_ok, liftFailure_eq_ok, pure_eq_ok, Prod.exists] at h
    obtain ⟨space, t, hload, refund, after', hrefund, rfl⟩ := h
    obtain ⟨settings, hsettings, rfl, ht⟩ := load_eq_ok.mp hload
    refine ⟨a, settings, t, hvalue, hsettings, ht, ?_⟩
    unfold Gateway.refundPart at hrefund
    rw [bind_eq_ok] at hrefund
    obtain ⟨request, hrequest, hsubmit⟩ := hrefund
    rcases Gateway.submit_eq_ok hsubmit with ⟨-, -, rfl⟩ | ⟨built, booked, rfl, -, hcreate⟩
    · exact .inl rfl
    · exact .inr ⟨built, booked, hrequest, hcreate⟩

theorem PartBody.booksAt_of_run {b : PartBody} {file : SettingsFile} {g after : Gateway}
    {token : String} (hkeyed : g.Keyed) (h : b.run file g token = .ok after) :
    ∃ settings, file.resolve b.channel = .ok settings ∧
      (after = g ∨ Endpoint.part.BooksAt g settings.spaceId b.transaction after) := by
  obtain ⟨a, settings, t, -, hsettings, ht, hsame | ⟨request, refund, hrequest, hcreate⟩⟩ :=
    created_of_run h
  · exact ⟨settings, hsettings, .inl hsame⟩
  · exact ⟨settings, hsettings,
      .inr (booksAt_of_createRefund hkeyed ht (Endpoint.asks_of_ofPart hrequest) hcreate)⟩

/-- A handler that fails changes nothing, and one that succeeds answers without a text. -/
theorem answer_cases {Body : Type} [Decode Body] {run : Body → Except Rejection Gateway}
    {g : Gateway} {endpoint : Endpoint}
    (hrun : ∀ b after, run b = .ok after → after = g ∨ endpoint.BooksOne g after) (body : String) :
    (answer run g body).2 = g ∨
      (answer run g body).1 = .response ⟨204, some ""⟩ ∧
        endpoint.BooksOne g (answer run g body).2 := by
  unfold answer
  split
  · exact Or.inl rfl
  · exact Or.inl rfl
  next b _ =>
    cases hresult : run b with
    | error rejection => exact Or.inl rfl
    | ok after =>
      cases hrun b after hresult with
      | inl hsame => exact Or.inl hsame
      | inr hbooks => exact Or.inr ⟨rfl, hbooks⟩

theorem Endpoint.answer_cases (endpoint : Endpoint) (file : SettingsFile) {g : Gateway}
    (hkeyed : g.Keyed) (token body : String) :
    (endpoint.answer file g token body).2 = g ∨
      (endpoint.answer file g token body).1 = .response ⟨204, some ""⟩ ∧
        endpoint.BooksOne g (endpoint.answer file g token body).2 := by
  cases endpoint with
  | units =>
    apply Http.answer_cases
    intro b after hrun
    obtain ⟨settings, -, hbooks⟩ := UnitsBody.booksAt_of_run hkeyed hrun
    exact Or.inr hbooks.booksOne
  | amount =>
    apply Http.answer_cases
    intro b after hrun
    obtain ⟨settings, -, hbooks⟩ := AmountBody.booksAt_of_run hkeyed hrun
    exact Or.inr hbooks.booksOne
  | part =>
    apply Http.answer_cases
    intro b after hrun
    obtain ⟨settings, -, hbooks⟩ := PartBody.booksAt_of_run hkeyed hrun
    exact hbooks.imp id Endpoint.BooksAt.booksOne

/-- A request leaves the gateway as it was, or one endpoint books one refund and says so. -/
theorem handle_cases (file : SettingsFile) {g : Gateway} (hkeyed : g.Keyed) (token : String)
    (r : Request) :
    (handle file g token r).2 = g ∨
      (handle file g token r).1 = .response ⟨204, some ""⟩ ∧
        ∃ endpoint, Endpoint.at? (pathOf r.path) = some endpoint ∧
          endpoint.BooksOne g (handle file g token r).2 := by
  unfold handle
  split
  · exact Or.inl rfl
  next endpoint hendpoint =>
    split
    · exact Or.inl rfl
    · split
      · exact Or.inl rfl
      · rcases endpoint.answer_cases file hkeyed token r.body with hsame | ⟨hreply, hbooks⟩
        · exact Or.inl hsame
        · exact Or.inr ⟨hreply, endpoint, hendpoint, hbooks⟩

/-- What a request does to one transaction: nothing, or one refund is booked on it. -/
theorem handle_cases_at (file : SettingsFile) {g : Gateway} (hkeyed : g.Keyed) (token : String)
    (r : Request) {space id : UInt64} {t : Transaction} (ht : g.transaction? space id = some t) :
    ((handle file g token r).2.transaction? space id = some t ∧
        (handle file g token r).2.refundsOf space id = g.refundsOf space id) ∨
      (handle file g token r).1 = .response ⟨204, some ""⟩ ∧
        ∃ endpoint request total refund, Endpoint.at? (pathOf r.path) = some endpoint ∧
          endpoint.Books g space t request total refund (handle file g token r).2 ∧
          (handle file g token r).2.transaction? space id = some { t with refunded := total } ∧
          (handle file g token r).2.refundsOf space id = g.refundsOf space id ++ [refund] := by
  rcases handle_cases file hkeyed token r with
    hsame | ⟨hreply, endpoint, hendpoint, s, t', request, total, refund, hbooks⟩
  · rw [hsame]
    exact Or.inl ⟨ht, rfl⟩
  · have hbooked := hbooks.booked
    by_cases hkey : (s, request.transaction) = (space, id)
    · obtain ⟨rfl, rfl⟩ := Prod.mk.inj hkey
      obtain rfl : t' = t := Option.some.inj (hbooked.found.symm.trans ht)
      refine Or.inr ⟨hreply, endpoint, request, total, refund, hendpoint, hbooks, ?_, ?_⟩
      · rw [hbooked.transaction?_after, if_pos rfl]
      · rw [hbooked.refundsOf_after, if_pos rfl]
    · rw [hbooked.transaction?_after, hbooked.refundsOf_after, if_neg hkey, if_neg hkey]
      exact Or.inl ⟨ht, rfl⟩

/-! ## Sequences of requests -/

/-- The state after a sequence of requests, each with the token of the refund it may create. -/
def serve (file : SettingsFile) (g : Gateway) (requests : List (String × Request)) : Gateway :=
  requests.foldl (fun g r ↦ (handle file g r.1 r.2).2) g

theorem extends_handle (file : SettingsFile) {g : Gateway} (hkeyed : g.Keyed) (token : String)
    (r : Request) : g.Extends (handle file g token r).2 := by
  rcases handle_cases file hkeyed token r with
    hsame | ⟨-, endpoint, -, space, t, request, total, refund, hbooks⟩
  · rw [hsame]
    exact .refl g
  · exact hbooks.booked.extends

/-- What each request of a sequence keeps, the sequence keeps. -/
theorem serve_induction_of_mem {file : SettingsFile} {g : Gateway} (hkeyed : g.Keyed)
    {motive : Gateway → Prop} (requests : List (String × Request)) (start : motive g)
    (step : ∀ later, ∀ r ∈ requests, later.Keyed → g.Extends later → motive later →
      motive (handle file later r.1 r.2).2) : motive (serve file g requests) := by
  suffices h : ∀ later, later.Keyed → g.Extends later → motive later →
      motive (serve file later requests) from h g hkeyed (.refl g) start
  induction requests with
  | nil => exact fun later _ _ hlater ↦ hlater
  | cons r rest ih =>
    intro later hlater hext hmotive
    have hnext := extends_handle file hlater r.1 r.2
    exact ih (fun later r' hr' ↦ step later r' (List.mem_cons_of_mem r hr')) _
      (hlater.of_extends hnext) (hext.trans hnext)
      (step later r List.mem_cons_self hlater hext hmotive)

/-- What one request keeps, a sequence of requests keeps. -/
theorem serve_induction {file : SettingsFile} {g : Gateway} (hkeyed : g.Keyed)
    {motive : Gateway → Prop} (start : motive g)
    (step : ∀ later token r, later.Keyed → g.Extends later → motive later →
      motive (handle file later token r).2)
    (requests : List (String × Request)) : motive (serve file g requests) :=
  serve_induction_of_mem hkeyed requests start fun later r _ ↦ step later r.1 r.2

theorem extends_serve (file : SettingsFile) {g : Gateway} (hkeyed : g.Keyed)
    (requests : List (String × Request)) : g.Extends (serve file g requests) :=
  serve_induction hkeyed (.refl g)
    (fun _ token r hlater _ hext ↦ hext.trans (extends_handle file hlater token r)) requests

/-! ## Requests in one space -/

/-- The settings of a shop with one space and no sales channels of its own. -/
def oneSpace : SettingsFile where
  default := { SettingsValues.unset with
    spaceId := some 1
    userId := some 7
    applicationKey := some "key" }
  channels := .empty
  labels := .standard

/-- A JSON request to an endpoint. -/
def post (endpoint body : String) : Request where
  path := basePath ++ endpoint
  method := "POST"
  contentType := some "application/json"
  body

end Http
end ShopPayments
