import ShopPayments.Proofs.Http.InPlace
import ShopPayments.Proofs.Http.LineItems

/-!
# All or nothing

A request that is not answered with status 204 leaves the state as it was.  One that is books
exactly one refund, on the transaction that it names in the space of the sales channel that it
names; only a part of a line item may also come to nothing.  What else there is stays.
-/

namespace ShopPayments

/-! ## One more refund -/

namespace Gateway

/-- One refund was added to a transaction of a space, which was refunded by its amount, and nothing
else changed. -/
structure AddsRefund (g : Gateway) (space id : UInt64) (t : Transaction) (total : Decimal)
    (refund : Refund) (after : Gateway) : Prop where
  found : g.transaction? space id = some t
  total_eq : t.refunded.add refund.amount = .ok total
  total_exact : ∀ sum : Decimal, sum.toRat = t.refunded.toRat + refund.amount.toRat →
    total.toRat = t.refunded.toRat + refund.amount.toRat
  transactions : ∀ s i, after.transaction? s i =
    if (space, id) = (s, i) then some { t with refunded := total } else g.transaction? s i
  refunds : ∀ s i, after.refundsOf s i =
    if (space, id) = (s, i) then g.refundsOf s i ++ [refund] else g.refundsOf s i
  methods : after.methods = g.methods
  sequence : after.sequence.toNat = g.sequence.toNat + 1
  refund_id : refund.id = after.sequence

/-- One refund was added to a transaction of a space. -/
def AddsOne (g : Gateway) (space id : UInt64) (after : Gateway) : Prop :=
  ∃ t total refund, g.AddsRefund space id t total refund after

theorem Booked.addsRefund {g after : Gateway} {space : UInt64} {request : RefundRequest}
    {t : Transaction} {total : Decimal} {refund : Refund}
    (h : g.Booked space request t total refund after) :
    g.AddsRefund space request.transaction t total refund after where
  found := h.found
  total_eq := h.total_eq
  total_exact := fun _ hsum ↦ (Decimal.add_stores h.total_eq).toRat_eq hsum
  transactions := h.transaction?_after
  refunds := h.refundsOf_after
  methods := by rw [h.after_eq]
  sequence := by
    rw [h.after_eq, UInt64.toNat_add]
    exact Nat.mod_eq_of_lt h.sequence_lt
  refund_id := by rw [h.after_eq, h.refund_eq]

end Gateway

namespace Http

theorem Endpoint.BooksAt.addsOne {endpoint : Endpoint} {g after : Gateway} {space id : UInt64}
    (h : endpoint.BooksAt g space id after) : g.AddsOne space id after := by
  obtain ⟨t, request, total, refund, rfl, hbooks⟩ := h
  exact ⟨t, total, refund, hbooks.booked.addsRefund⟩

/-! ## What a request names -/

/-- The status of a reply; a handler that crashed gives none. -/
def Reply.status? : Reply → Option ℕ
  | .response r => some r.status
  | .crash _ => none

/-- The sales channel and the transaction that a body names. -/
def Endpoint.target? (e : Endpoint) (body : String) : Option (Option String × UInt64) :=
  match e with
  | .units => (Json.parse body : Except Misread UnitsBody).toOption.map fun b ↦
    (b.channel, b.transaction)
  | .amount => (Json.parse body : Except Misread AmountBody).toOption.map fun b ↦
    (b.channel, b.transaction)
  | .part => (Json.parse body : Except Misread PartBody).toOption.map fun b ↦
    (b.channel, b.transaction)

/-- The key of the transaction that a body names, in the space of its sales channel. -/
def Endpoint.address? (e : Endpoint) (file : SettingsFile) (body : String) :
    Option TransactionKey := do
  let (channel, id) ← e.target? body
  let settings ← (file.resolve channel).toOption
  pure (settings.spaceId, id)

theorem Endpoint.address?_eq_some {e : Endpoint} {file : SettingsFile} {body : String}
    {channel : Option String} {id : UInt64} {settings : Settings}
    (htarget : e.target? body = some (channel, id))
    (hsettings : file.resolve channel = .ok settings) :
    e.address? file body = some (settings.spaceId, id) := by
  rw [address?, htarget]
  simp [hsettings, Except.toOption]

theorem Endpoint.exists_of_address? {e : Endpoint} {file : SettingsFile} {body : String}
    {space id : UInt64} (h : e.address? file body = some (space, id)) :
    ∃ channel settings, e.target? body = some (channel, id) ∧
      file.resolve channel = .ok settings ∧ settings.spaceId = space := by
  unfold address? at h
  cases htarget : e.target? body with
  | none => simp [htarget] at h
  | some target =>
    obtain ⟨channel, id'⟩ := target
    cases hsettings : file.resolve channel with
    | error cause => simp [htarget, hsettings, Except.toOption] at h
    | ok settings =>
      simp only [htarget, hsettings, Except.toOption, Option.bind_eq_bind, Option.bind_some,
        Option.pure_def, Option.some.injEq, Prod.mk.injEq] at h
      exact ⟨channel, settings, by rw [h.2], hsettings, h.1⟩

/-! ## Requests -/

theorem Rejection.status?_reply (rejection : Rejection) :
    rejection.reply.status? ≠ some 204 := by
  unfold reply
  split <;> simp [Reply.status?]

/-- A body that was read is given to its handler. -/
theorem answer_of_parsed {Body : Type} [Decode Body] {body : String} {b : Body}
    (h : (Json.parse body : Except Misread Body) = .ok b) (run : Body → Except Rejection Gateway)
    (g : Gateway) :
    answer run g body =
      match run b with
      | .ok after => (.response ⟨204, some ""⟩, after)
      | .error rejection => (rejection.reply, g) := by
  unfold answer
  rewrite [h]
  rfl

/-- The state changes only if the handler of a body that was read succeeds. -/
theorem answer_eq_or {Body : Type} [Decode Body] (run : Body → Except Rejection Gateway)
    (g : Gateway) (body : String) :
    (∃ b after, (Json.parse body : Except Misread Body) = .ok b ∧ run b = .ok after ∧
        answer run g body = (.response ⟨204, some ""⟩, after)) ∨
      (answer run g body).1.status? ≠ some 204 ∧ (answer run g body).2 = g := by
  unfold answer
  cases (Json.parse body : Except Misread Body) with
  | error misread => right; cases misread <;> simp [Reply.status?]
  | ok b =>
    dsimp only
    cases hrun : run b with
    | ok after => exact .inl ⟨b, after, rfl, hrun, rfl⟩
    | error rejection => exact .inr ⟨rejection.status?_reply, rfl⟩

/-- An endpoint added one refund to the transaction that a body names in the space of its sales
channel, or a part of a line item came to nothing. -/
def Endpoint.Carries (e : Endpoint) (file : SettingsFile) (g : Gateway) (body : String)
    (after : Gateway) : Prop :=
  ∃ space id, e.address? file body = some (space, id) ∧
    (g.AddsOne space id after ∨ e = .part ∧ after = g)

/-- Where every handler that succeeds books one refund under the key that its body names, the
endpoint does. -/
theorem Endpoint.carries_or_eq {Body : Type} [Decode Body] {run : Body → Except Rejection Gateway}
    {e : Endpoint} {file : SettingsFile} {g : Gateway} {body : String}
    {channel : Body → Option String} {id : Body → UInt64}
    (htarget : ∀ b, (Json.parse body : Except Misread Body) = .ok b →
      e.target? body = some (channel b, id b))
    (hrun : ∀ b after, run b = .ok after → ∃ settings, file.resolve (channel b) = .ok settings ∧
      (g.AddsOne settings.spaceId (id b) after ∨ e = .part ∧ after = g)) :
    (Http.answer run g body).1.status? = some 204 ∧
        e.Carries file g body (Http.answer run g body).2 ∨
      (Http.answer run g body).1.status? ≠ some 204 ∧ (Http.answer run g body).2 = g := by
  rcases answer_eq_or run g body with ⟨b, after, hread, hok, hanswer⟩ | hfailed
  · obtain ⟨settings, hsettings, hdone⟩ := hrun b after hok
    rw [hanswer]
    exact .inl ⟨rfl, settings.spaceId, id b, address?_eq_some (htarget b hread) hsettings, hdone⟩
  · exact .inr hfailed

theorem Endpoint.answer_carries_or_eq (e : Endpoint) (file : SettingsFile) {g : Gateway}
    (hkeyed : g.Keyed) (token body : String) :
    (e.answer file g token body).1.status? = some 204 ∧
        e.Carries file g body (e.answer file g token body).2 ∨
      (e.answer file g token body).1.status? ≠ some 204 ∧ (e.answer file g token body).2 = g := by
  cases e with
  | units =>
    refine carries_or_eq (fun b hread ↦ by rw [target?, hread]; rfl) fun b after hrun ↦ ?_
    obtain ⟨settings, hsettings, hbooks⟩ := UnitsBody.booksAt_of_run hkeyed hrun
    exact ⟨settings, hsettings, .inl hbooks.addsOne⟩
  | amount =>
    refine carries_or_eq (fun b hread ↦ by rw [target?, hread]; rfl) fun b after hrun ↦ ?_
    obtain ⟨settings, hsettings, hbooks⟩ := AmountBody.booksAt_of_run hkeyed hrun
    exact ⟨settings, hsettings, .inl hbooks.addsOne⟩
  | part =>
    refine carries_or_eq (fun b hread ↦ by rw [target?, hread]; rfl) fun b after hrun ↦ ?_
    obtain ⟨settings, hsettings, hsame | hbooks⟩ := PartBody.booksAt_of_run hkeyed hrun
    · exact ⟨settings, hsettings, .inr ⟨rfl, hsame⟩⟩
    · exact ⟨settings, hsettings, .inl hbooks.addsOne⟩

/-- A request with a JSON body that is posted to an endpoint is answered by it. -/
theorem handle_eq_answer {r : Request} {endpoint : Endpoint}
    (hendpoint : Endpoint.at? (pathOf r.path) = some endpoint) (hmethod : r.method = "POST")
    (hjson : r.isJson = true) (file : SettingsFile) (g : Gateway) (token : String) :
    handle file g token r = endpoint.answer file g token r.body := by
  unfold handle
  rw [hendpoint]
  simp [hmethod, hjson]

/-- A request is answered by its endpoint, or it is turned down without a look at the state. -/
theorem handle_eq_answer_or (file : SettingsFile) (g : Gateway) (token : String) (r : Request) :
    (∃ endpoint, Endpoint.at? (pathOf r.path) = some endpoint ∧
        handle file g token r = endpoint.answer file g token r.body) ∨
      (handle file g token r).1.status? ≠ some 204 ∧ (handle file g token r).2 = g := by
  unfold handle
  cases Endpoint.at? (pathOf r.path) with
  | none => simp [Reply.status?]
  | some endpoint =>
    dsimp only
    split
    · simp [Reply.status?]
    split
    · simp [Reply.status?]
    exact .inl ⟨endpoint, rfl, rfl⟩

/-- **A request to a refund endpoint is all or nothing**, in every state with its transactions under
their own keys: handlers that write in place come to the same as those that give back a new state,
any outcome but status 204 leaves the state as it was, and status 204 means one more refund of the
transaction named, or none if a part of a line item was asked for. -/
theorem handle_allOrNothing (file : SettingsFile) {g : Gateway} (hkeyed : g.Keyed)
    (token : String) (r : Request) :
    (handleInPlace file token r).run g = handle file g token r ∧
      ((handle file g token r).1.status? ≠ some 204 → (handle file g token r).2 = g) ∧
      ((handle file g token r).1.status? = some 204 →
        ∃ endpoint, Endpoint.at? (pathOf r.path) = some endpoint ∧
          endpoint.Carries file g r.body (handle file g token r).2) := by
  refine ⟨run_handleInPlace file g token r, ?_⟩
  unfold handle
  cases hendpoint : Endpoint.at? (pathOf r.path) with
  | none => simp [Reply.status?]
  | some endpoint =>
    dsimp only
    split
    · simp [Reply.status?]
    split
    · simp [Reply.status?]
    rcases endpoint.answer_carries_or_eq file hkeyed token r.body with
      ⟨hdone, hcarries⟩ | ⟨hfailed, hsame⟩
    · exact ⟨fun h ↦ absurd hdone h, fun _ ↦ ⟨endpoint, rfl, hcarries⟩⟩
    · exact ⟨fun _ ↦ hsame, fun h ↦ absurd h hfailed⟩

theorem handle_allOrNothing_hat :
    (Gateway.holding hatAndSock).AddsOne 1 42
        (handle oneSpace (Gateway.holding hatAndSock) "one" refundHat).2 ∧
      (handle oneSpace (Gateway.holding hatAndSock) "one" refundBells).2 =
        Gateway.holding hatAndSock := by
  have hbooked : (handle oneSpace (Gateway.holding hatAndSock) "one" refundHat).1.status? =
      some 204 := by decide +kernel
  have hrejected : (handle oneSpace (Gateway.holding hatAndSock) "one" refundBells).1.status? =
      some 400 := by decide +kernel
  have hkeyed := Gateway.keyed_holding hatAndSock
  obtain ⟨-, -, hdone⟩ := handle_allOrNothing oneSpace hkeyed "one" refundHat
  obtain ⟨-, hfailed, -⟩ := handle_allOrNothing oneSpace hkeyed "one" refundBells
  obtain ⟨endpoint, hendpoint, space, id, haddress, hadds⟩ := hdone hbooked
  have hunits : Endpoint.at? (pathOf refundHat.path) = some .units := by decide +kernel
  obtain rfl := Option.some.inj (hunits.symm.trans hendpoint)
  have hhat : Endpoint.units.address? oneSpace refundHat.body = some (1, 42) := by decide +kernel
  obtain ⟨rfl, rfl⟩ := Prod.mk.inj (Option.some.inj (hhat.symm.trans haddress))
  constructor
  · exact hadds.resolve_right fun hpart ↦ Endpoint.noConfusion hpart.1
  · apply hfailed
    rw [hrejected]
    decide

end Http
end ShopPayments
