import ShopPayments.Proofs.Http.AllOrNothing
import ShopPayments.Proofs.Refund.Anonymous

/-!
# Spaces do not interfere

A request that names a sales channel sees the transactions and the refunds of the space of that
channel and nothing else: neither other spaces, nor the number of the last refund, nor the ids of
refunds.  So two states that agree on a space give the same replies to requests in it and agree on
it afterwards, and all other spaces stay as they were.
-/

namespace ShopPayments

namespace Gateway

/-- There is a number left for the next refund. -/
def HasRoom (g : Gateway) : Prop := g.sequence.toNat + 1 < UInt64.size

theorem nextId_of_hasRoom {g : Gateway} (h : g.HasRoom) : g.nextId = .ok (g.sequence + 1) :=
  if_pos h

/-- Two states agree on the transactions of a space, and on its refunds up to their ids. -/
structure Alike (g : Gateway) (space : UInt64) (g' : Gateway) : Prop where
  transactions : ∀ id, g.transaction? space id = g'.transaction? space id
  refunds : ∀ id, (g.refundsOf space id).map Refund.anonymous =
    (g'.refundsOf space id).map Refund.anonymous

namespace Alike

variable {g g' : Gateway} {space : UInt64}

theorem transaction_eq (h : g.Alike space g') (id : UInt64) :
    g.transaction space id = g'.transaction space id := by
  unfold transaction
  rw [h.transactions]

/-- Requests that are alike are refused for the same cause, or booked alike. -/
theorem parallel_createRefund (h : g.Alike space g') (hroom : g.HasRoom) (hroom' : g'.HasRoom)
    {request request' : RefundRequest} (hsame : request.Alike request') :
    Parallel (fun x y ↦ x.2.Alike space y.2) (g.createRefund space request)
      (g'.createRefund space request') := by
  have hid : request'.transaction = request.transaction := by
    obtain ⟨externalId, rfl⟩ := hsame
    rfl
  unfold createRefund
  rw [nextId_of_hasRoom hroom, nextId_of_hasRoom hroom', ok_bind, ok_bind, hid, h.transaction_eq]
  apply Parallel.step
  intro t _
  apply (t.parallel_book hsame _ _).bind
  rintro b b' ⟨htransaction, hrefund⟩
  refine .ok ⟨fun id ↦ ?_, fun id ↦ ?_⟩
  · unfold transaction?
    dsimp only
    rw [Table.get?_insert, Table.get?_insert, htransaction]
    split
    · rfl
    · exact h.transactions id
  · unfold refundsOf
    dsimp only
    rw [Table.getD_get?_append, Table.getD_get?_append]
    split
    · rw [List.map_append, List.map_append, List.map_singleton, List.map_singleton, hrefund]
      exact congrArg (· ++ [b'.refund.anonymous]) (h.refunds id)
    · exact h.refunds id

theorem parallel_submit (h : g.Alike space g') (hroom : g.HasRoom) (hroom' : g'.HasRoom)
    {request request' : Option RefundRequest} (hsame : RefundRequest.OptionAlike request request') :
    Parallel (fun x y ↦ x.1.isSome = y.1.isSome ∧ x.2.Alike space y.2) (g.submit space request)
      (g'.submit space request') := by
  cases hsame with
  | none => exact .ok ⟨rfl, h⟩
  | some hsame =>
    apply (h.parallel_createRefund hroom hroom' hsame).bind
    intro x y hafter
    exact .ok ⟨rfl, hafter⟩

end Alike
end Gateway

namespace Http

/-! ## Handlers -/

section

variable {file : SettingsFile} {g g' : Gateway} {space : UInt64} {channel : Option String}
  {token token' : String}

/-- A sales channel that has settings has those of a space. -/
def InSpace (file : SettingsFile) (space : UInt64) (channel : Option String) : Prop :=
  ∀ settings, file.resolve channel = .ok settings → settings.spaceId = space

theorem parallel_load (h : g.Alike space g') (hspace : InSpace file space channel) (id : UInt64) :
    Parallel (fun x y ↦ x = y ∧ x.1 = space) (load file g channel id)
      (load file g' channel id) := by
  apply Parallel.step
  intro settings hsettings
  rw [hspace settings hsettings, h.transaction_eq]
  apply Parallel.step
  intro t _
  exact .ok ⟨rfl, rfl⟩

theorem UnitsBody.parallel_decide (b : UnitsBody) (t : Transaction) {refunds refunds' : List Refund}
    (h : refunds.map Refund.anonymous = refunds'.map Refund.anonymous) :
    Parallel RefundRequest.Alike (b.decide t refunds token) (b.decide t refunds' token') := by
  unfold decide
  rw [t.refundableUnits_congr h]
  apply Parallel.step
  intro most _
  apply Parallel.guard
  apply (RefundRequest.parallel_ofUnits t token token' b.item _).liftFailure.bind
  intro request request' hsame
  cases hsame with
  | none => exact .error _
  | some hsame => exact .ok hsame

theorem UnitsBody.parallel_run (b : UnitsBody) (h : g.Alike space g')
    (hspace : InSpace file space b.channel) (hroom : g.HasRoom) (hroom' : g'.HasRoom) :
    Parallel (·.Alike space ·) (b.run file g token) (b.run file g' token') := by
  apply Parallel.guard
  apply (parallel_load h hspace b.transaction).liftFailure.bind
  rintro ⟨space', t⟩ _ ⟨rfl, rfl⟩
  apply (b.parallel_decide t (h.refunds t.id)).bind
  intro request request' hsame
  apply (h.parallel_createRefund hroom hroom' hsame).liftFailure.bind
  intro x y hafter
  exact .ok hafter

theorem AmountBody.parallel_run (b : AmountBody) (h : g.Alike space g')
    (hspace : InSpace file space b.channel) (hroom : g.HasRoom) (hroom' : g'.HasRoom) :
    Parallel (·.Alike space ·) (b.run file g token) (b.run file g' token') := by
  unfold run
  cases b.amount.bind fun d ↦ (Amount.ofDecimal d).toOption with
  | none => exact .error _
  | some amount =>
    apply (parallel_load h hspace b.transaction).liftFailure.bind
    rintro ⟨space', t⟩ _ ⟨rfl, rfl⟩
    apply Parallel.step
    intro most _
    apply Parallel.guard
    have hrefund : Parallel (fun x y ↦ x.1.isSome = y.1.isSome ∧ x.2.Alike space' y.2)
        (g.refundAmount space' t token amount) (g'.refundAmount space' t token' amount) :=
      (RefundRequest.parallel_ofAmount t token token' amount.value).bind
        fun _ _ ↦ h.parallel_submit hroom hroom'
    apply hrefund.liftFailure.bind
    rintro ⟨refund, after⟩ ⟨refund', after'⟩ ⟨hsome, hafter⟩
    cases refund with
    | none =>
      obtain rfl : refund' = none := by simpa using hsome
      exact .error _
    | some refund =>
      obtain ⟨refund', rfl⟩ := Option.isSome_iff_exists.mp hsome.symm
      exact .ok hafter

theorem PartBody.parallel_run (b : PartBody) (h : g.Alike space g')
    (hspace : InSpace file space b.channel) (hroom : g.HasRoom) (hroom' : g'.HasRoom) :
    Parallel (·.Alike space ·) (b.run file g token) (b.run file g' token') := by
  unfold run
  cases Amount.ofDecimal b.amount with
  | error _ => exact .error _
  | ok amount =>
    apply (parallel_load h hspace b.transaction).liftFailure.bind
    rintro ⟨space', t⟩ _ ⟨rfl, rfl⟩
    have hrefund : Parallel (fun x y ↦ x.1.isSome = y.1.isSome ∧ x.2.Alike space' y.2)
        (g.refundPart space' t token b.item amount) (g'.refundPart space' t token' b.item amount) :=
      (RefundRequest.parallel_ofPart t token token' b.item amount.value).bind
        fun _ _ ↦ h.parallel_submit hroom hroom'
    apply hrefund.liftFailure.bind
    intro x y hafter
    exact .ok hafter.2

end

/-! ## Requests -/

/-- The sales channel that a request names, if it has settings, has those of a space. -/
def Request.Addresses (r : Request) (file : SettingsFile) (space : UInt64) : Prop :=
  ∀ endpoint, Endpoint.at? (pathOf r.path) = some endpoint →
    ∀ channel id, endpoint.target? r.body = some (channel, id) → InSpace file space channel

variable {file : SettingsFile} {g g' : Gateway} {space : UInt64} {token token' : String}

/-- Where a handler gives the same outcome on both states to every body of a sales channel in the
space, so does its endpoint. -/
theorem answer_alike {Body : Type} [Decode Body] {run run' : Body → Except Rejection Gateway}
    {e : Endpoint} {channel : Body → Option String} {id : Body → UInt64} {body : String}
    (h : g.Alike space g')
    (hspace : ∀ channel id, e.target? body = some (channel, id) → InSpace file space channel)
    (htarget : ∀ b, (Json.parse body : Except Misread Body) = .ok b →
      e.target? body = some (channel b, id b))
    (hrun : ∀ b, InSpace file space (channel b) → Parallel (·.Alike space ·) (run b) (run' b)) :
    (answer run g body).1 = (answer run' g' body).1 ∧
      (answer run g body).2.Alike space (answer run' g' body).2 := by
  unfold answer
  cases hread : (Json.parse body : Except Misread Body) with
  | error misread => cases misread <;> exact ⟨rfl, h⟩
  | ok b =>
    dsimp only
    have houtcome := hrun b (hspace _ _ (htarget b hread))
    generalize run b = x, run' b = y at houtcome ⊢
    cases houtcome with
    | ok hafter => exact ⟨rfl, hafter⟩
    | error rejection => exact ⟨rfl, h⟩

theorem handle_alike (h : g.Alike space g') (hroom : g.HasRoom) (hroom' : g'.HasRoom) {r : Request}
    (hspace : r.Addresses file space) (token token' : String) :
    (handle file g token r).1 = (handle file g' token' r).1 ∧
      (handle file g token r).2.Alike space (handle file g' token' r).2 := by
  unfold handle
  cases hendpoint : Endpoint.at? (pathOf r.path) with
  | none => exact ⟨rfl, h⟩
  | some endpoint =>
    dsimp only
    split
    · exact ⟨rfl, h⟩
    split
    · exact ⟨rfl, h⟩
    have hchannel := hspace endpoint hendpoint
    cases endpoint with
    | units =>
      exact answer_alike h hchannel (fun b hread ↦ by rw [Endpoint.target?, hread]; rfl)
        fun b hb ↦ b.parallel_run h hb hroom hroom'
    | amount =>
      exact answer_alike h hchannel (fun b hread ↦ by rw [Endpoint.target?, hread]; rfl)
        fun b hb ↦ b.parallel_run h hb hroom hroom'
    | part =>
      exact answer_alike h hchannel (fun b hread ↦ by rw [Endpoint.target?, hread]; rfl)
        fun b hb ↦ b.parallel_run h hb hroom hroom'

/-- The transactions and the refunds of all other spaces are the same. -/
def SameOutside (g : Gateway) (space : UInt64) (after : Gateway) : Prop :=
  ∀ other id, other ≠ space → after.transaction? other id = g.transaction? other id ∧
    after.refundsOf other id = g.refundsOf other id

theorem handle_sameOutside (hkeyed : g.Keyed) {r : Request} (hspace : r.Addresses file space)
    (token : String) : SameOutside g space (handle file g token r).2 := by
  intro other id hother
  rcases handle_eq_answer_or file g token r with ⟨endpoint, hendpoint, hanswer⟩ | ⟨-, hsame⟩
  · rw [hanswer]
    rcases endpoint.answer_carries_or_eq file hkeyed token r.body with
      ⟨-, space', id', haddress, hadds | ⟨-, hsame⟩⟩ | ⟨-, hsame⟩
    · obtain ⟨channel, settings, htarget, hsettings, rfl⟩ := Endpoint.exists_of_address? haddress
      obtain ⟨t, total, refund, hadds⟩ := hadds
      have hkey : (settings.spaceId, id') ≠ (other, id) := by
        rw [hspace endpoint hendpoint channel id' htarget settings hsettings]
        exact fun h ↦ hother (Prod.mk.inj h).1.symm
      rw [hadds.transactions, hadds.refunds, if_neg hkey, if_neg hkey]
      exact ⟨rfl, rfl⟩
    · rw [hsame]
      exact ⟨rfl, rfl⟩
    · rw [hsame]
      exact ⟨rfl, rfl⟩
  · rw [hsame]
    exact ⟨rfl, rfl⟩

/-! ## Sequences of requests -/

/-- The replies to a sequence of requests. -/
def replies (file : SettingsFile) : Gateway → List (String × Request) → List Reply
  | _, [] => []
  | g, r :: rest =>
    (handle file g r.1 r.2).1 :: replies file (handle file g r.1 r.2).2 rest

/-- Before each of the requests there is a number left for the next refund. -/
def KeepsRoom (file : SettingsFile) (g : Gateway) (requests : List (String × Request)) : Prop :=
  ∀ before r after, requests = before ++ r :: after → (serve file g before).HasRoom

theorem KeepsRoom.head {r : String × Request} {rest : List (String × Request)}
    (h : KeepsRoom file g (r :: rest)) : g.HasRoom := h [] r rest rfl

theorem KeepsRoom.tail {r : String × Request} {rest : List (String × Request)}
    (h : KeepsRoom file g (r :: rest)) : KeepsRoom file (handle file g r.1 r.2).2 rest := by
  intro before r' after hrest
  exact h (r :: before) r' after (by rw [hrest]; rfl)

theorem sequence_handle_le (file : SettingsFile) (hkeyed : g.Keyed) (token : String) (r : Request) :
    (handle file g token r).2.sequence.toNat ≤ g.sequence.toNat + 1 := by
  rcases handle_cases file hkeyed token r with
    hsame | ⟨-, endpoint, -, space, t, request, total, refund, hbooks⟩
  · rw [hsame]
    exact Nat.le_succ _
  · exact hbooks.booked.addsRefund.sequence.le

/-- A request takes one number at most. -/
theorem keepsRoom_of_lt (file : SettingsFile) (hkeyed : g.Keyed)
    {requests : List (String × Request)}
    (h : g.sequence.toNat + requests.length < UInt64.size) : KeepsRoom file g requests := by
  induction requests generalizing g with
  | nil =>
    intro before r after hnone
    simp at hnone
  | cons first rest ih =>
    rw [List.length_cons] at h
    have hnext := sequence_handle_le file hkeyed first.1 first.2
    have hrest := ih (hkeyed.of_extends (extends_handle file hkeyed first.1 first.2)) (by omega)
    intro before r after hsplit
    cases before with
    | nil => exact (by omega : g.sequence.toNat + 1 < UInt64.size)
    | cons r' before =>
      obtain ⟨rfl, htail⟩ := List.cons.inj hsplit
      exact hrest before r after htail

theorem serve_sameOutside (hkeyed : g.Keyed) {requests : List (String × Request)}
    (hspace : ∀ r ∈ requests, r.2.Addresses file space) :
    SameOutside g space (serve file g requests) := by
  induction requests generalizing g with
  | nil => exact fun _ _ _ ↦ ⟨rfl, rfl⟩
  | cons first rest ih =>
    have hfirst := handle_sameOutside hkeyed (hspace first List.mem_cons_self) first.1
    have hrest := ih (hkeyed.of_extends (extends_handle file hkeyed first.1 first.2))
      fun r hr ↦ hspace r (List.mem_cons_of_mem _ hr)
    intro other id hother
    obtain ⟨htransaction, hrefunds⟩ := hrest other id hother
    obtain ⟨htransaction', hrefunds'⟩ := hfirst other id hother
    exact ⟨htransaction.trans htransaction', hrefunds.trans hrefunds'⟩

theorem serve_alike (h : g.Alike space g') {requests requests' : List (String × Request)}
    (hsame : requests.map Prod.snd = requests'.map Prod.snd)
    (hspace : ∀ r ∈ requests, r.2.Addresses file space) (hroom : KeepsRoom file g requests)
    (hroom' : KeepsRoom file g' requests') :
    replies file g requests = replies file g' requests' ∧
      (serve file g requests).Alike space (serve file g' requests') := by
  induction requests generalizing g g' requests' with
  | nil =>
    obtain rfl : requests' = [] := by simpa using hsame.symm
    exact ⟨rfl, h⟩
  | cons first rest ih =>
    cases requests' with
    | nil => simp at hsame
    | cons first' rest' =>
      rw [List.map_cons, List.map_cons, List.cons.injEq] at hsame
      obtain ⟨hreply, hafter⟩ := handle_alike h hroom.head hroom'.head
        (hspace first List.mem_cons_self) first.1 first'.1
      rw [hsame.1] at hreply hafter
      obtain ⟨hreplies, hlast⟩ := ih (hsame.1 ▸ hafter) hsame.2
        (fun r hr ↦ hspace r (List.mem_cons_of_mem _ hr)) hroom.tail hroom'.tail
      refine ⟨?_, hlast⟩
      rw [replies, replies, hreplies, hsame.1, hreply]

/-- **Spaces do not interfere.**  Two states that agree on a space, and may differ in all else, give
the same replies to requests in it, whatever random ids their refunds get, agree on it afterwards up
to the ids of refunds, and keep every other space as it was. -/
theorem replies_eq_of_alike (file : SettingsFile) (hkeyed : g.Keyed) (hkeyed' : g'.Keyed)
    (halike : g.Alike space g') {requests requests' : List (String × Request)}
    (hsame : requests.map Prod.snd = requests'.map Prod.snd)
    (hspace : ∀ r ∈ requests, r.2.Addresses file space) (hroom : KeepsRoom file g requests)
    (hroom' : KeepsRoom file g' requests') :
    replies file g requests = replies file g' requests' ∧
      (∀ id, (serve file g requests).transaction? space id =
        (serve file g' requests').transaction? space id) ∧
      (∀ id, ((serve file g requests).refundsOf space id).map Refund.anonymous =
        ((serve file g' requests').refundsOf space id).map Refund.anonymous) ∧
      SameOutside g space (serve file g requests) ∧
      SameOutside g' space (serve file g' requests') := by
  obtain ⟨hreplies, hafter⟩ := serve_alike halike hsame hspace hroom hroom'
  have hspace' : ∀ r ∈ requests', r.2.Addresses file space := by
    intro r' hr'
    have hmem : r'.2 ∈ requests.map Prod.snd := hsame ▸ List.mem_map_of_mem hr'
    obtain ⟨r, hr, hrequest⟩ := List.mem_map.mp hmem
    exact hrequest ▸ hspace r hr
  exact ⟨hreplies, hafter.transactions, hafter.refunds, serve_sameOutside hkeyed hspace,
    serve_sameOutside hkeyed' hspace'⟩

/-- Transaction 42 in two spaces, the other one with a refund that was number seven. -/
def busyElsewhere : Snapshot where
  transactions := [hatAndSock, { hatAndSock with space := 2, refunded := .ofUInt32 5 }]
  refunds := [⟨7, 2, 42, .successful, .ofUInt32 5, "refund_token", []⟩]
  methods := []
  stored := []
  sequence := 7

theorem alike_busyElsewhere :
    (Gateway.holding hatAndSock).Alike 1 busyElsewhere.restore.gateway where
  transactions := by
    intro id
    have hbusy : busyElsewhere.restore.gateway.transaction? 1 id =
        if (1, 42) = ((1, id) : TransactionKey) then some hatAndSock else none := by
      simp [busyElsewhere, Snapshot.restore, Snapshot.transactionTable, Gateway.transaction?,
        Table.get?_insert, Transaction.key, hatAndSock]
    rw [hbusy, Gateway.transaction?_holding]
    rfl
  refunds := by
    intro id
    have hbusy : busyElsewhere.restore.gateway.refundsOf 1 id = [] := by
      simp [busyElsewhere, Snapshot.restore, Snapshot.refundTable, Gateway.refundsOf,
        Table.getD_get?_append, Refund.key]
    rw [hbusy, Gateway.refundsOf_holding]

theorem inSpace_oneSpace (channel : Option String) : InSpace oneSpace 1 channel := by
  have hvalues : oneSpace.valuesFor channel = oneSpace.default := by
    cases channel <;> rfl
  intro settings hsettings
  unfold SettingsFile.resolve at hsettings
  rw [hvalues] at hsettings
  obtain rfl := Except.ok.inj hsettings
  rfl

/-- The hat is refunded once in either state, with the number one and the number eight. -/
theorem replies_eq_of_alike_busyElsewhere :
    let requests := [("one", refundHat), ("two", refundHat)]
    let requests' := [("eight", refundHat), ("nine", refundHat)]
    replies oneSpace (Gateway.holding hatAndSock) requests =
        replies oneSpace busyElsewhere.restore.gateway requests' ∧
      (serve oneSpace (Gateway.holding hatAndSock) requests).transaction? 1 42 =
        (serve oneSpace busyElsewhere.restore.gateway requests').transaction? 1 42 ∧
      (serve oneSpace busyElsewhere.restore.gateway requests').transaction? 2 42 =
        busyElsewhere.restore.gateway.transaction? 2 42 ∧
      ((serve oneSpace (Gateway.holding hatAndSock) requests).refundsOf 1 42).map (·.id) = [1] ∧
      ((serve oneSpace busyElsewhere.restore.gateway requests').refundsOf 1 42).map (·.id) =
        [8] := by
  intro requests requests'
  have hkeyed := Gateway.keyed_holding hatAndSock
  have hkeyed' := Gateway.keyed_restore busyElsewhere
  have hsame : requests.map Prod.snd = requests'.map Prod.snd := rfl
  obtain ⟨hreplies, htransactions, -, -, hother⟩ := replies_eq_of_alike oneSpace hkeyed hkeyed'
    alike_busyElsewhere hsame
    (fun _ _ _ _ channel _ _ ↦ inSpace_oneSpace channel)
    (keepsRoom_of_lt oneSpace hkeyed (by decide)) (keepsRoom_of_lt oneSpace hkeyed' (by decide))
  exact ⟨hreplies, htransactions 42, (hother 2 42 (by decide)).1, by decide +kernel,
    by decide +kernel⟩

end Http
end ShopPayments
