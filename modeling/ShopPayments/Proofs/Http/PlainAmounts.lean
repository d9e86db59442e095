import ShopPayments.Proofs.Gateway.Batch
import ShopPayments.Proofs.Http.AllOrNothing
import ShopPayments.Proofs.Http.Refundable
import ShopPayments.Proofs.Http.Rejections
import ShopPayments.Proofs.Refund.Anonymous

/-!
# The amounts that can be refunded

The limit on a plain amount is looked at three times, each time on other numbers: the endpoint
compares the amount as it was asked for with what is left, rounded to cents; the request is only
built for at most what was authorized; the gateway compares the rounded amount with what is left
before rounding.  Rounding keeps the order and leaves whole cents alone, so what passes the endpoint
passes the gateway, whatever the precision of the amount is (`handle_amount`).
-/

namespace ShopPayments

/-! ## The three limits -/

namespace Transaction

/-- What was captured and what was refunded are whole cents of a size that is kept exactly. -/
structure InSmallCents (t : Transaction) : Prop where
  captured_isCents : Money.IsCents t.captured.toRat
  captured_lt : |t.captured.toRat| < 10 ^ 15
  refunded_isCents : Money.IsCents t.refunded.toRat
  refunded_lt : |t.refunded.toRat| < 10 ^ 15

/-- An amount can be refunded of a transaction: it has an id and is fulfilled, it supports
refunds, and the amount is positive and at most what is left and what was authorized. -/
structure Grants (t : Transaction) (a : Decimal) : Prop where
  id_pos : 0 < t.id
  fulfilled : t.state = .fulfill
  supported : t.supportsRefunds = true
  positive : 0 < a
  within_left : ∃ left, t.refundableAmount = .ok left ∧ a ≤ left
  within_authorized : a ≤ t.authorized

namespace InSmallCents

variable {t : Transaction} {a : Decimal}

theorem abs_difference_lt (ht : t.InSmallCents) :
    |t.captured.toRat - t.refunded.toRat| * 100 < Decimal.magnitudeBound := by
  have hdifference := abs_sub t.captured.toRat t.refunded.toRat
  have hcaptured := ht.captured_lt
  have hrefunded := ht.refunded_lt
  norm_num [Decimal.magnitudeBound]
  linarith

/-- What is left is known exactly. -/
theorem exists_left (ht : t.InSmallCents) :
    ∃ left, t.refundableAmount = .ok left ∧ left.toRat = t.captured.toRat - t.refunded.toRat :=
  exists_refundableAmount_toRat ht.captured_isCents ht.refunded_isCents ht.abs_difference_lt

/-- An amount of any precision that is at most what is left, rounded to cents, is still at most
that when it is rounded itself. -/
theorem round_le (ht : t.InSmallCents) {left : Decimal} (hleft : t.refundableAmount = .ok left)
    (hle : a ≤ left) : (Money.round a).toRat ≤ t.captured.toRat - t.refunded.toRat := by
  obtain ⟨left', hleft', hexact⟩ := ht.exists_left
  obtain rfl : left' = left := Except.ok.inj (hleft'.symm.trans hleft)
  have hcents : Money.IsCents left'.toRat :=
    hexact ▸ ht.captured_isCents.sub ht.refunded_isCents
  calc
    (Money.round a).toRat ≤ (Money.round left').toRat :=
      Money.round_mono (Decimal.le_iff_toRat_le.mp hle)
    _ = left'.toRat := Money.toRat_round_of_isCents hcents
    _ = t.captured.toRat - t.refunded.toRat := hexact

/-- What is refunded with a rounded amount in between has room. -/
theorem abs_total_lt (ht : t.InSmallCents) {x : ℚ} (hnonneg : 0 ≤ x)
    (hle : x ≤ t.captured.toRat - t.refunded.toRat) : |t.refunded.toRat + x| < 10 ^ 15 := by
  obtain ⟨hlow, -⟩ := abs_lt.mp ht.refunded_lt
  obtain ⟨-, hhigh⟩ := abs_lt.mp ht.captured_lt
  rw [abs_lt]
  constructor <;> linarith

/-- The gateway books a positive amount that is at most what is left. -/
theorem exists_book (ht : t.InSmallCents) (hsupported : t.supportsRefunds = true)
    (hpositive : 0 < a) {left : Decimal} (hleft : t.refundableAmount = .ok left) (hle : a ≤ left)
    {request : RefundRequest} (hnames : request.Names t (some (Money.round a)) []) (id : UInt64) :
    ∃ booking, t.book request id = .ok booking := by
  have hround := ht.round_le hleft hle
  have hnonneg := Money.round_nonneg ((Decimal.toRat_pos_iff a).mp hpositive).le
  have htotal := ht.abs_total_lt hnonneg hround
  apply exists_book_of_room hsupported hnames.value_eq ht.captured_isCents ht.refunded_isCents
    ht.abs_difference_lt _ (by linarith)
  norm_num [Decimal.magnitudeBound]
  linarith

end InSmallCents
end Transaction

namespace Http

/-! ## What the endpoint answers -/

/-- The request asks for a plain amount. -/
structure Request.AsksAmount (r : Request) (b : AmountBody) : Prop where
  endpoint_at : Endpoint.at? (pathOf r.path) = some .amount
  method_eq : r.method = "POST"
  isJson : r.isJson = true
  parsed : (Json.parse r.body : Except Misread AmountBody) = .ok b

theorem handle_of_asksAmount {r : Request} {b : AmountBody} (h : r.AsksAmount b)
    (file : SettingsFile) (g : Gateway) (token : String) :
    handle file g token r =
      match b.run file g token with
      | .ok after => (.response ⟨204, some ""⟩, after)
      | .error rejection => (rejection.reply, g) :=
  (handle_eq_answer h.endpoint_at h.method_eq h.isJson file g token).trans
    (answer_of_parsed h.parsed _ g)

section Amount

variable {b : AmountBody} {file : SettingsFile} {g : Gateway} {token : String}

/-- The body names a transaction in the space of its sales channel. -/
def AmountBody.Addresses (b : AmountBody) (file : SettingsFile) (g : Gateway)
    (settings : Settings) (t : Transaction) : Prop :=
  file.resolve b.channel = .ok settings ∧
    g.transaction? settings.spaceId b.transaction = some t

/-- The transaction that the body names has whole cents. -/
def AmountBody.AddressesSmallCents (b : AmountBody) (file : SettingsFile) (g : Gateway) : Prop :=
  ∀ settings t, b.Addresses file g settings t → t.InSmallCents

/-- What the handler does with a transaction that grants the amount: it books the rounded amount. -/
theorem AmountBody.exists_booked_of_grants (hkeyed : g.Keyed)
    (hroom : g.sequence.toNat + 1 < UInt64.size) (hcents : b.AddressesSmallCents file g)
    {settings : Settings} {t : Transaction} {a : Decimal} (haddress : b.Addresses file g settings t)
    (hamount : b.amount = some a) (hgrants : t.Grants a) :
    ∃ request total refund after, b.run file g token = .ok after ∧
      request.transaction = b.transaction ∧ refund.amount = Money.round a ∧
      g.Booked settings.spaceId request t total refund after := by
  obtain ⟨hsettings, ht⟩ := haddress
  obtain ⟨left, hleft, hle⟩ := hgrants.within_left
  obtain ⟨request, hrequest⟩ : ∃ request,
      RefundRequest.forTransaction t token (some (Money.round a)) [] = .ok request :=
    RefundRequest.exists_forTransaction_iff.mpr ⟨hgrants.id_pos, by simp⟩
  have hnames := RefundRequest.names_of_forTransaction hrequest
  have hid : request.transaction = b.transaction := hnames.transaction_eq.trans (hkeyed.id_eq ht)
  have hbook := (hcents settings t ⟨hsettings, ht⟩).exists_book hgrants.supported hgrants.positive
    hleft hle hnames (g.sequence + 1)
  obtain ⟨total, refund, after, hcreate, hbooked⟩ :=
    Gateway.exists_booked_of_book hroom (hid ▸ ht) hbook
  refine ⟨request, total, refund, after, ?_, hid, ?_, hbooked⟩
  · exact run_eq_ok.mpr ⟨⟨a, hgrants.positive⟩, settings, t, left, request, refund, hamount,
      hsettings, ht, hleft, hle, RefundRequest.ofAmount_eq_ok.mpr
        ⟨hgrants.fulfilled, hgrants.within_authorized, hrequest⟩, hcreate⟩
  · exact Except.ok.inj (hbooked.priced.symm.trans hnames.value_eq)

/-- A handler that succeeds was asked for an amount that the transaction grants. -/
theorem AmountBody.grants_of_run (hkeyed : g.Keyed) {after : Gateway}
    (h : b.run file g token = .ok after) :
    ∃ settings t a, b.Addresses file g settings t ∧ b.amount = some a ∧ t.Grants a := by
  obtain ⟨a, settings, t, left, request, refund, hamount, hsettings, ht, hleft, hle, hrequest,
    hcreate⟩ := run_eq_ok.mp h
  obtain ⟨hstate, hauthorized, hbuilt⟩ := RefundRequest.ofAmount_eq_ok.mp hrequest
  obtain ⟨t', total, hbooked⟩ := Gateway.booked_of_createRefund hcreate
  have hid : request.transaction = b.transaction :=
    (RefundRequest.names_of_forTransaction hbuilt).transaction_eq.trans (hkeyed.id_eq ht)
  have hfound := hbooked.found
  rw [hid, ht] at hfound
  obtain rfl := Option.some.inj hfound
  exact ⟨settings, t, a.value, ⟨hsettings, ht⟩, hamount,
    (RefundRequest.exists_forTransaction_iff.mp ⟨request, hbuilt⟩).1, hstate, hbooked.supported,
    a.positive, ⟨left, hleft, hle⟩, hauthorized⟩

/-- After the booking exactly the rounded amount less is left. -/
theorem left_after_booked {space : UInt64} {request : RefundRequest} {t : Transaction}
    {total : Decimal} {refund : Refund} {after : Gateway} {a left : Decimal}
    (hbooked : g.Booked space request t total refund after) (ht : t.InSmallCents)
    (hpositive : 0 < a) (hleft : t.refundableAmount = .ok left) (hle : a ≤ left)
    (hamount : refund.amount = Money.round a) :
    ∃ left', { t with refunded := total : Transaction }.refundableAmount = .ok left' ∧
      left'.toRat = left.toRat - (Money.round a).toRat := by
  have hround := ht.round_le hleft hle
  have hnonneg := Money.round_nonneg ((Decimal.toRat_pos_iff a).mp hpositive).le
  have hsmall := ht.abs_total_lt hnonneg hround
  have hcents := ht.refunded_isCents.add (Money.round_isCents a)
  have htotal : total.toRat = t.refunded.toRat + (Money.round a).toRat := by
    have hstores := Decimal.add_stores hbooked.total_eq
    rw [hamount] at hstores
    refine hstores.toRat_eq_of_isCents hcents ?_
    norm_num [Decimal.magnitudeBound]
    linarith
  have hafter : ({ t with refunded := total : Transaction }).InSmallCents :=
    ⟨ht.captured_isCents, ht.captured_lt, htotal ▸ hcents, htotal ▸ hsmall⟩
  obtain ⟨left', hleft', hexact'⟩ := hafter.exists_left
  obtain ⟨first, hfirst, hexact⟩ := ht.exists_left
  obtain rfl : first = left := Except.ok.inj (hfirst.symm.trans hleft)
  refine ⟨left', hleft', ?_⟩
  rw [hexact', hexact, htotal]
  ring

end Amount

/-! ## What the gateway turns down -/

section Exceeds

/-- The gateway says that an amount exceeds what is left. -/
def Rejection.Exceeds (rejection : Rejection) : Prop :=
  ∃ amount available id, rejection = .failure (.exceedsRefundable amount available id)

/-- Nothing else that a handler turns a request down for says so. -/
theorem covers_not_exceeds : Rejection.Covers fun rejection ↦ ¬ rejection.Exceeds := by
  constructor <;> simp [Rejection.Exceeds]

/-- No failure says that an amount exceeds what is left. -/
def NeverExceeds {α : Type} (x : Except Failure α) : Prop :=
  FailsOnly (fun cause ↦ ¬ (Rejection.failure cause).Exceeds) x

theorem not_exceeds_overflow (operation : Overflow) :
    ¬ (Rejection.failure (.overflow operation)).Exceeds := by
  simp [Rejection.Exceeds]

/-- Booking an amount that is at most what is left fails only where refunds are not supported. -/
theorem neverExceeds_book {t : Transaction} (ht : t.InSmallCents) {a left : Decimal}
    (hpositive : 0 < a) (hleft : t.refundableAmount = .ok left) (hle : a ≤ left)
    {request : RefundRequest} (hnames : request.Names t (some (Money.round a)) []) (id : UInt64) :
    NeverExceeds (t.book request id) := by
  cases hsupported : t.supportsRefunds with
  | true =>
    obtain ⟨booking, hbooking⟩ := ht.exists_book hsupported hpositive hleft hle hnames id
    rw [hbooking]
    exact .ok booking
  | false =>
    have hbook : t.book request id = .error (.refundsUnsupported t.id) := by
      simp [Transaction.book, hsupported]
    rw [hbook]
    refine .error ?_
    rintro ⟨_, _, _, h⟩
    cases h

theorem neverExceeds_createRefund {g : Gateway} (hkeyed : g.Keyed) {space id : UInt64}
    {t : Transaction} (hfound : g.transaction? space id = some t) (ht : t.InSmallCents)
    {a left : Decimal} (hpositive : 0 < a) (hleft : t.refundableAmount = .ok left) (hle : a ≤ left)
    {request : RefundRequest} (hnames : request.Names t (some (Money.round a)) []) :
    NeverExceeds (g.createRefund space request) := by
  have hid : request.transaction = id := hnames.transaction_eq.trans (hkeyed.id_eq hfound)
  apply failsOnly_createRefund
  · unfold Gateway.nextId
    split
    · exact .ok _
    · exact .error (not_exceeds_overflow .count)
  · exact covers_not_exceeds.unknownTransaction _
  · intro t' ht' number
    obtain rfl := Option.some.inj (hfound.symm.trans (hid ▸ ht'))
    exact neverExceeds_book ht hpositive hleft hle hnames number

/-- An amount that passes the handler's own check is never too much for the gateway. -/
theorem AmountBody.not_exceeds_of_run {b : AmountBody} {file : SettingsFile} {g : Gateway}
    (hkeyed : g.Keyed) (hcents : b.AddressesSmallCents file g) (token : String) :
    FailsOnly (fun rejection ↦ ¬ rejection.Exceeds) (b.run file g token) := by
  apply failsOnly_run covers_not_exceeds
  · exact fun _ _ _ _ operation _ ↦ not_exceeds_overflow operation
  · intro settings t request hsettings ht hasks
    cases hasks with
    | amount a left counted fits names =>
      exact neverExceeds_createRefund hkeyed ht (hcents settings t ⟨hsettings, ht⟩) a.positive
        counted fits names

end Exceeds

/-! ## The endpoint and the gateway agree -/

/-- **The amount endpoint accepts exactly the amounts that the gateway books**, in every state with
its transactions under their own keys: status 204 means that the sales channel has settings and that
the transaction of its space grants the amount, of whatever precision.  Then the rounded amount is
recorded, and exactly that much less is left; and no amount that passed the endpoint's check is too
much for the gateway. -/
theorem handle_amount (file : SettingsFile) {g : Gateway} (hkeyed : g.Keyed)
    (hroom : g.sequence.toNat + 1 < UInt64.size) (token : String) {r : Request} {b : AmountBody}
    (hasks : r.AsksAmount b) (hcents : b.AddressesSmallCents file g) :
    ((handle file g token r).1.status? = some 204 ↔
        ∃ settings t a, b.Addresses file g settings t ∧ b.amount = some a ∧ t.Grants a) ∧
      (∀ settings t a, b.Addresses file g settings t → b.amount = some a → t.Grants a →
        ∃ refund t' left left', refund.amount = Money.round a ∧
          (handle file g token r).2.refundsOf settings.spaceId b.transaction =
            g.refundsOf settings.spaceId b.transaction ++ [refund] ∧
          (handle file g token r).2.transaction? settings.spaceId b.transaction = some t' ∧
          t.refundableAmount = .ok left ∧ t'.refundableAmount = .ok left' ∧
          left'.toRat = left.toRat - (Money.round a).toRat) ∧
      ∀ rejection, b.run file g token = .error rejection → ¬ rejection.Exceeds := by
  have hhandle := handle_of_asksAmount hasks file g token
  refine ⟨⟨?_, ?_⟩, ?_, b.not_exceeds_of_run hkeyed hcents token⟩
  · intro hstatus
    rw [hhandle] at hstatus
    cases hrun : b.run file g token with
    | ok after => exact AmountBody.grants_of_run hkeyed hrun
    | error rejection =>
      rw [hrun] at hstatus
      exact absurd hstatus rejection.status?_reply
  · rintro ⟨settings, t, a, haddress, hamount, hgrants⟩
    obtain ⟨request, total, refund, after, hrun, -, -, -⟩ :=
      AmountBody.exists_booked_of_grants hkeyed hroom hcents haddress hamount hgrants
    rw [hhandle, hrun]
    rfl
  · intro settings t a haddress hamount hgrants
    obtain ⟨request, total, refund, after, hrun, hid, hrefund, hbooked⟩ :=
      AmountBody.exists_booked_of_grants hkeyed hroom hcents haddress hamount hgrants
    obtain ⟨left, hleft, hle⟩ := hgrants.within_left
    obtain ⟨left', hleft', hexact⟩ := left_after_booked hbooked
      (hcents settings t haddress) hgrants.positive hleft hle hrefund
    rw [hhandle, hrun]
    refine ⟨refund, { t with refunded := total }, left, left', hrefund, ?_, ?_, hleft, hleft',
      hexact⟩
    · rw [hbooked.refundsOf_after, hid, if_pos rfl]
    · rw [hbooked.transaction?_after, hid, if_pos rfl]

/-- A request for a half cent more than ten. -/
def refundTenAndHalfCent : Request :=
  post "create-refund-by-amount/" "\x7b\"transactionId\":42,\"refundableAmount\":10.005\x7d"

/-- Ten and one cent are refunded of sixty. -/
theorem handle_amount_tenAndHalfCent :
    let g := Gateway.holding hatAndSock
    (handle oneSpace g "one" refundTenAndHalfCent).1.status? = some 204 ∧
      ∃ refund, refund.amount = ⟨false, 1001, 2, by decide, by decide⟩ ∧
        (handle oneSpace g "one" refundTenAndHalfCent).2.refundsOf 1 42 = [refund] := by
  intro g
  let a : Decimal := ⟨false, 10005, 3, by decide, by decide⟩
  have hread : (Json.parse refundTenAndHalfCent.body : Except Misread AmountBody).toOption.map
      (fun b ↦ (b.channel, b.transaction, b.amount)) = some (none, 42, some a) := by
    decide +kernel
  obtain ⟨b, hbody, hparts⟩ := Option.map_eq_some_iff.mp hread
  simp only [Prod.mk.injEq] at hparts
  obtain ⟨hchannel, htransaction, hamount⟩ := hparts
  have hasks : refundTenAndHalfCent.AsksAmount b := by
    refine ⟨by decide +kernel, rfl, by decide +kernel, ?_⟩
    cases hparsed : (Json.parse refundTenAndHalfCent.body : Except Misread AmountBody) with
    | error misread => simp [hparsed, Except.toOption] at hbody
    | ok b' => simpa [hparsed, Except.toOption] using hbody
  have hcents : b.AddressesSmallCents oneSpace g := by
    rintro settings t ⟨-, ht⟩
    obtain rfl := Gateway.eq_of_transaction?_holding ht
    have hsixty : hatAndSock.captured.toRat = 60 := Decimal.toRat_ofUInt32 60
    have hnone : hatAndSock.refunded.toRat = 0 := Decimal.toRat_zero
    exact ⟨Money.isCents_of_scale_le (by decide), by norm_num [hsixty],
      Money.isCents_of_scale_le (by decide), by norm_num [hnone]⟩
  obtain ⟨settings, haddress, hspace⟩ : ∃ settings, b.Addresses oneSpace g settings hatAndSock ∧
      settings.spaceId = 1 := by
    simp only [AmountBody.Addresses, hchannel, htransaction]
    exact ⟨_, ⟨rfl, rfl⟩, rfl⟩
  have hgrants : hatAndSock.Grants a :=
    ⟨by decide, rfl, rfl, by decide, ⟨_, rfl, by decide⟩, by decide⟩
  obtain ⟨haccepted, hbooked, -⟩ := handle_amount oneSpace (Gateway.keyed_holding hatAndSock)
    (by decide) "one" hasks hcents
  obtain ⟨refund, -, -, -, hrefund, hrefunds, -⟩ :=
    hbooked settings hatAndSock a haddress hamount hgrants
  refine ⟨haccepted.mpr ⟨settings, hatAndSock, a, haddress, hamount, hgrants⟩, refund, ?_, ?_⟩
  · rw [hrefund]
    decide +kernel
  · rw [htransaction, hspace] at hrefunds
    exact hrefunds

end Http
end ShopPayments
