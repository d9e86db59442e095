import ShopPayments.Proofs.Gateway.Conservation
import ShopPayments.Proofs.Gateway.Room

/-!
# Batches of refunds

The requests of a batch are booked one after another, each against what those before it left.
Whether all of them are accepted can still be said without an order: each of them can be priced, and
what is asked of a transaction fits into what is left of it.  So it does not matter in which order
the requests come.
-/

namespace ShopPayments

/-! ## Room for one booking -/

/-- What fits into the rest of a transaction in whole cents is booked, if all of it has room. -/
theorem Transaction.exists_book_of_room {t : Transaction} {request : RefundRequest}
    {amount : Decimal} (hsupported : t.supportsRefunds = true)
    (hamount : request.value t = .ok amount) (hcaptured : Money.IsCents t.captured.toRat)
    (hrefunded : Money.IsCents t.refunded.toRat)
    (hroom : |t.captured.toRat - t.refunded.toRat| * 100 < Decimal.magnitudeBound)
    (hroomTotal : |t.refunded.toRat + amount.toRat| * 100 < Decimal.magnitudeBound)
    (hfits : t.refunded.toRat + amount.toRat ≤ t.captured.toRat) (id : UInt64) :
    ∃ booking, t.book request id = .ok booking := by
  have hhundred : (10 : ℚ) ^ Money.places = 100 := by norm_num [Money.places]
  exact exists_book_of_places Money.places_le_maxScale le_rfl hsupported hamount
    (Money.isCents_iff_hasPlaces.mp hcaptured) (Money.isCents_iff_hasPlaces.mp hrefunded)
    (hhundred.symm ▸ hroom) (hhundred.symm ▸ hroomTotal) hfits id

/-- What fits into the rest of a balanced transaction is booked. -/
theorem Transaction.Balanced.exists_book {t : Transaction} (ht : t.Balanced)
    {request : RefundRequest} {amount : Decimal} (hsupported : t.supportsRefunds = true)
    (hamount : request.value t = .ok amount) (hnonneg : 0 ≤ amount.toRat)
    (hfits : t.refunded.toRat + amount.toRat ≤ t.captured.toRat) (id : UInt64) :
    ∃ booking, t.book request id = .ok booking := by
  have hnonnegRefunded := ht.refunded_nonneg
  have hbound := ht.captured_lt
  exact exists_book_of_room hsupported hamount ht.captured_isCents ht.refunded_isCents
    (Money.hundredths_lt (by linarith) (by linarith))
    (Money.hundredths_lt (by linarith) (by linarith)) hfits id

/-! ## Quotes -/

/-- A refund without its number. -/
def Refund.unnumbered (refund : Refund) : Refund := { refund with id := 0 }

/-- The refund that a request asks for, without a number, where it can be priced. -/
def RefundRequest.quote? (t : Transaction) (request : RefundRequest) : Option Refund :=
  if t.supportsRefunds then
    (request.value t).toOption.map fun amount ↦
      { id := 0, space := t.space, transaction := t.id, state := .successful, amount
        externalId := request.externalId, reductions := request.reductions }
  else none

theorem RefundRequest.quote?_eq_some_iff {t : Transaction} {request : RefundRequest}
    {quote : Refund} :
    request.quote? t = some quote ↔
      t.supportsRefunds = true ∧ request.value t = .ok quote.amount ∧ quote =
        { id := 0, space := t.space, transaction := t.id, state := .successful
          amount := quote.amount, externalId := request.externalId
          reductions := request.reductions } := by
  unfold quote?
  cases t.supportsRefunds with
  | false => simp
  | true =>
    cases request.value t with
    | error cause => simp [Except.toOption]
    | ok amount =>
      simp only [if_true, Except.toOption, Option.map_some, Option.some.injEq, true_and,
        Except.ok.injEq]
      constructor
      · rintro rfl
        exact ⟨rfl, rfl⟩
      · rintro ⟨rfl, hquote⟩
        exact hquote.symm

namespace Gateway

/-- The refund that a call asks for. -/
def quote? (g : Gateway) (c : UInt64 × RefundRequest) : Option Refund :=
  (g.transaction? c.1 c.2.transaction).bind c.2.quote?

/-- The refunds that calls ask for on a transaction, in the order of the calls. -/
def quotesOf (g : Gateway) (calls : List (UInt64 × RefundRequest)) (space id : UInt64) :
    List Refund :=
  (calls.filter fun c ↦ (c.1, c.2.transaction) = (space, id)).filterMap g.quote?

/-- The sum that calls ask for on a transaction. -/
def asked (g : Gateway) (calls : List (UInt64 × RefundRequest)) (space id : UInt64) : ℚ :=
  ((g.quotesOf calls space id).map (·.amount.toRat)).sum

/-- No call asks for less than nothing. -/
def AsksNonnegative (g : Gateway) (calls : List (UInt64 × RefundRequest)) : Prop :=
  ∀ c ∈ calls, ∀ quote, g.quote? c = some quote → 0 ≤ quote.amount.toRat

section Quotes

variable {g : Gateway} {space : UInt64} {request : RefundRequest} {quote : Refund}
  {calls : List (UInt64 × RefundRequest)}

theorem quotesOf_cons (hquote : g.quote? (space, request) = some quote) (s id : UInt64) :
    g.quotesOf ((space, request) :: calls) s id =
      if (space, request.transaction) = (s, id) then quote :: g.quotesOf calls s id
      else g.quotesOf calls s id := by
  unfold quotesOf
  split
  next hkey =>
    rw [List.filter_cons_of_pos (by simpa using hkey), List.filterMap_cons_some hquote]
  next hkey => rw [List.filter_cons_of_neg (by simpa using hkey)]

theorem asked_cons (hquote : g.quote? (space, request) = some quote) (s id : UInt64) :
    g.asked ((space, request) :: calls) s id =
      (if (space, request.transaction) = (s, id) then quote.amount.toRat else 0) +
        g.asked calls s id := by
  unfold asked
  rw [quotesOf_cons hquote]
  split <;> simp

theorem quotesOf_perm {calls' : List (UInt64 × RefundRequest)} (h : calls.Perm calls')
    (s id : UInt64) : (g.quotesOf calls s id).Perm (g.quotesOf calls' s id) :=
  (h.filter _).filterMap _

theorem asked_perm {calls' : List (UInt64 × RefundRequest)} (h : calls.Perm calls')
    (s id : UInt64) : g.asked calls s id = g.asked calls' s id :=
  ((quotesOf_perm h s id).map _).sum_eq

theorem AsksNonnegative.asked_nonneg (h : g.AsksNonnegative calls) (s id : UInt64) :
    0 ≤ g.asked calls s id := by
  apply List.sum_nonneg
  intro x hx
  obtain ⟨quote, hquote, rfl⟩ := List.mem_map.mp hx
  obtain ⟨c, hc, hcquote⟩ := List.mem_filterMap.mp hquote
  exact h c (List.mem_filter.mp hc).1 quote hcquote

end Quotes

/-! ## One call of a batch -/

/-- All transactions are balanced. -/
def Balanced (g : Gateway) : Prop := ∀ space id t, g.transaction? space id = some t → t.Balanced

namespace Booked

variable {g after : Gateway} {space : UInt64} {request : RefundRequest} {t : Transaction}
  {total : Decimal} {refund : Refund}

theorem quote?_eq (h : g.Booked space request t total refund after) :
    g.quote? (space, request) = some refund.unnumbered := by
  unfold quote?
  rw [h.found]
  refine RefundRequest.quote?_eq_some_iff.mpr ⟨h.supported, h.priced, ?_⟩
  rw [h.refund_eq]
  rfl

/-- What a call asks for does not depend on what was booked before it. -/
theorem quote?_after (h : g.Booked space request t total refund after) :
    after.quote? = g.quote? := by
  funext c
  unfold quote?
  rw [h.transaction?_after]
  split
  next hkey =>
    obtain ⟨rfl, hid⟩ := Prod.mk.inj hkey
    rw [← hid, h.found]
    rfl
  next => rfl

theorem quotesOf_after (h : g.Booked space request t total refund after) :
    after.quotesOf = g.quotesOf := by
  unfold quotesOf
  rw [h.quote?_after]

theorem asked_after (h : g.Booked space request t total refund after) :
    after.asked = g.asked := by
  unfold asked
  rw [h.quotesOf_after]

theorem asksNonnegative (h : g.Booked space request t total refund after)
    {calls : List (UInt64 × RefundRequest)}
    (hnonneg : g.AsksNonnegative ((space, request) :: calls)) :
    0 ≤ refund.amount.toRat ∧ after.AsksNonnegative calls := by
  refine ⟨hnonneg _ List.mem_cons_self refund.unnumbered h.quote?_eq, ?_⟩
  unfold AsksNonnegative
  rw [h.quote?_after]
  exact fun c hc ↦ hnonneg c (List.mem_cons_of_mem _ hc)

theorem balanced_after (h : g.Booked space request t total refund after) (hbalanced : g.Balanced)
    (hamount : 0 ≤ refund.amount.toRat) : after.Balanced := by
  intro s id t' ht'
  rw [h.transaction?_after] at ht'
  split at ht'
  next =>
    rw [← Option.some.inj ht']
    exact h.balanced (hbalanced _ _ t h.found) hamount
  next => exact hbalanced s id t' ht'

end Booked

/-- What a transaction takes under the next number, the gateway books. -/
theorem exists_booked_of_book {g : Gateway} {space : UInt64} {request : RefundRequest}
    {t : Transaction} (hroom : g.sequence.toNat + 1 < UInt64.size)
    (ht : g.transaction? space request.transaction = some t)
    (hbook : ∃ booking, t.book request (g.sequence + 1) = .ok booking) :
    ∃ total refund after, g.createRefund space request = .ok (refund, after) ∧
      g.Booked space request t total refund after := by
  obtain ⟨booking, hbooking⟩ := hbook
  have hcreated : ∃ result, g.createRefund space request = .ok result := by
    simp [createRefund, nextId, transaction, hroom, ht, hbooking, pure_eq]
  obtain ⟨⟨refund, after⟩, hcreated⟩ := hcreated
  obtain ⟨t', total, hbooked⟩ := booked_of_createRefund hcreated
  obtain rfl := Option.some.inj (ht.symm.trans hbooked.found)
  exact ⟨total, refund, after, hcreated, hbooked⟩

/-- A call is accepted if the transaction has room for what it asks for. -/
theorem Balanced.exists_booked {g : Gateway} (hbalanced : g.Balanced) {space : UInt64}
    {request : RefundRequest} {t : Transaction} {quote : Refund}
    (hroom : g.sequence.toNat + 1 < UInt64.size)
    (ht : g.transaction? space request.transaction = some t)
    (hquote : g.quote? (space, request) = some quote) (hnonneg : 0 ≤ quote.amount.toRat)
    (hfits : t.refunded.toRat + quote.amount.toRat ≤ t.captured.toRat) :
    ∃ total refund after, g.createRefund space request = .ok (refund, after) ∧
      g.Booked space request t total refund after := by
  unfold quote? at hquote
  rw [ht] at hquote
  obtain ⟨hsupported, hamount, -⟩ := RefundRequest.quote?_eq_some_iff.mp hquote
  exact exists_booked_of_book hroom ht
    ((hbalanced _ _ t ht).exists_book hsupported hamount hnonneg hfits (g.sequence + 1))

/-! ## Batches -/

/-- Books the requests of a batch one after another; the batch ends with the first that fails. -/
def createRefunds (g : Gateway) : List (UInt64 × RefundRequest) → Except Failure Gateway
  | [] => .ok g
  | (space, request) :: rest => do
    let (_, after) ← g.createRefund space request
    after.createRefunds rest

/-- A batch fits: there are numbers for its refunds, each call can be priced, and what the calls ask
of a transaction does not exceed what is left of it. -/
structure Fits (g : Gateway) (calls : List (UInt64 × RefundRequest)) : Prop where
  room : g.sequence.toNat + calls.length < UInt64.size
  quoted : ∀ c ∈ calls, ∃ quote, g.quote? c = some quote
  within : ∀ space id t, g.transaction? space id = some t →
    t.refunded.toRat + g.asked calls space id ≤ t.captured.toRat

theorem Fits.perm {g : Gateway} {calls calls' : List (UInt64 × RefundRequest)}
    (h : g.Fits calls) (hperm : calls.Perm calls') : g.Fits calls' where
  room := hperm.length_eq ▸ h.room
  quoted := fun c hc ↦ h.quoted c (hperm.mem_iff.mpr hc)
  within := by
    intro space id t ht
    rw [← asked_perm hperm]
    exact h.within space id t ht

section Booked

variable {g after : Gateway} {space : UInt64} {request : RefundRequest} {t : Transaction}
  {total : Decimal} {refund : Refund}

/-- What a call takes of a transaction is left to the rest of the batch no more. -/
theorem Booked.within_iff (h : g.Booked space request t total refund after) (ht : t.Balanced)
    (hamount : 0 ≤ refund.amount.toRat) (calls : List (UInt64 × RefundRequest)) (s id : UInt64) :
    (∀ t, g.transaction? s id = some t →
        t.refunded.toRat + g.asked ((space, request) :: calls) s id ≤ t.captured.toRat) ↔
      ∀ t, after.transaction? s id = some t →
        t.refunded.toRat + after.asked calls s id ≤ t.captured.toRat := by
  rw [h.transaction?_after, h.asked_after, asked_cons h.quote?_eq]
  split
  next hkey =>
    obtain ⟨rfl, rfl⟩ := Prod.mk.inj hkey
    rw [h.found]
    simp only [Option.some.injEq, forall_eq']
    rw [h.total_toRat ht hamount, add_assoc]
    rfl
  next => rw [zero_add]

theorem Booked.fits_iff (h : g.Booked space request t total refund after) (ht : t.Balanced)
    (hamount : 0 ≤ refund.amount.toRat) (calls : List (UInt64 × RefundRequest)) :
    g.Fits ((space, request) :: calls) ↔ after.Fits calls := by
  have hsequence := h.toNat_sequence_after
  have hwithin := h.within_iff ht hamount calls
  have hquoted : (∀ c ∈ (space, request) :: calls, ∃ quote, g.quote? c = some quote) ↔
      ∀ c ∈ calls, ∃ quote, after.quote? c = some quote := by
    rw [List.forall_mem_cons, h.quote?_after]
    exact and_iff_right ⟨_, h.quote?_eq⟩
  constructor
  · intro hfits
    have hroom := hfits.room
    rw [List.length_cons] at hroom
    exact ⟨by omega, hquoted.mp hfits.quoted, fun s id ↦ (hwithin s id).mp (hfits.within s id)⟩
  · intro hfits
    have hroom := hfits.room
    refine ⟨?_, hquoted.mpr hfits.quoted, fun s id ↦ (hwithin s id).mpr (hfits.within s id)⟩
    rw [List.length_cons]
    omega

end Booked

/-- A batch is accepted exactly if it fits. -/
theorem Balanced.exists_createRefunds_iff {g : Gateway} (hbalanced : g.Balanced)
    {calls : List (UInt64 × RefundRequest)} (hnonneg : g.AsksNonnegative calls) :
    (∃ after, g.createRefunds calls = .ok after) ↔ g.Fits calls := by
  induction calls generalizing g with
  | nil =>
    refine ⟨fun _ ↦ ⟨g.sequence.toNat_lt, fun c hc ↦ absurd hc List.not_mem_nil, ?_⟩,
      fun _ ↦ ⟨g, rfl⟩⟩
    intro space id t ht
    rw [asked, quotesOf, List.filter_nil, List.filterMap_nil, List.map_nil, List.sum_nil, add_zero]
    exact (hbalanced space id t ht).refunded_le
  | cons c rest ih =>
    obtain ⟨space, request⟩ := c
    -- Once the first call is booked, what is left of the batch has to fit.
    have hrest : ∀ t total refund after, g.Booked space request t total refund after →
        ((∃ last, after.createRefunds rest = .ok last) ↔ g.Fits ((space, request) :: rest)) := by
      intro t total refund after hbooked
      obtain ⟨hamount, hlater⟩ := hbooked.asksNonnegative hnonneg
      rw [hbooked.fits_iff (hbalanced _ _ t hbooked.found) hamount]
      exact ih (hbooked.balanced_after hbalanced hamount) hlater
    constructor
    · rintro ⟨last, hlast⟩
      unfold createRefunds at hlast
      obtain ⟨⟨refund, after⟩, hcreated, hlast⟩ := bind_eq_ok.mp hlast
      obtain ⟨t, total, hbooked⟩ := booked_of_createRefund hcreated
      exact (hrest t total refund after hbooked).mp ⟨last, hlast⟩
    · intro hfits
      obtain ⟨quote, hquote⟩ := hfits.quoted _ List.mem_cons_self
      obtain ⟨t, ht, -⟩ := Option.bind_eq_some_iff.mp hquote
      have hroom := hfits.room
      rw [List.length_cons] at hroom
      have hwithin := hfits.within _ _ t ht
      rw [asked_cons hquote, if_pos rfl] at hwithin
      have hlater : 0 ≤ g.asked rest space request.transaction :=
        AsksNonnegative.asked_nonneg (fun c hc ↦ hnonneg c (List.mem_cons_of_mem _ hc)) _ _
      obtain ⟨total, refund, after, hcreated, hbooked⟩ := hbalanced.exists_booked (by omega) ht
        hquote (hnonneg _ List.mem_cons_self _ hquote) (by linarith)
      obtain ⟨last, hlast⟩ := (hrest t total refund after hbooked).mpr hfits
      refine ⟨last, ?_⟩
      rw [createRefunds, hcreated]
      exact hlast

/-- What a batch leaves behind: each transaction with what was asked of it added to what was
refunded, and the refunds that were asked for behind those that were there. -/
structure Outcome (g : Gateway) (calls : List (UInt64 × RefundRequest)) (after : Gateway) :
    Prop where
  transactions : ∀ space id, Option.Rel
    (fun t t' ↦ t' = { t with refunded := t'.refunded } ∧
      t'.refunded.toRat = t.refunded.toRat + g.asked calls space id)
    (g.transaction? space id) (after.transaction? space id)
  refunds : ∀ space id, (after.refundsOf space id).map Refund.unnumbered =
    (g.refundsOf space id).map Refund.unnumbered ++ g.quotesOf calls space id

theorem Booked.outcome {g after last : Gateway} {space : UInt64} {request : RefundRequest}
    {t : Transaction} {total : Decimal} {refund : Refund}
    (h : g.Booked space request t total refund after) (ht : t.Balanced)
    (hamount : 0 ≤ refund.amount.toRat) {calls : List (UInt64 × RefundRequest)}
    (hlast : after.Outcome calls last) : g.Outcome ((space, request) :: calls) last where
  transactions := by
    intro s id
    have hrest := hlast.transactions s id
    rw [h.transaction?_after, h.asked_after] at hrest
    rw [asked_cons h.quote?_eq]
    split at hrest
    next hkey =>
      obtain ⟨rfl, rfl⟩ := Prod.mk.inj hkey
      rw [h.found, if_pos rfl]
      generalize last.transaction? _ _ = t'? at hrest ⊢
      cases hrest with
      | some hsame =>
        obtain ⟨hsame, hsum⟩ := hsame
        refine .some ⟨hsame, ?_⟩
        rw [hsum, h.total_toRat ht hamount, add_assoc]
        rfl
    next hkey =>
      rw [if_neg hkey, zero_add]
      exact hrest
  refunds := by
    intro s id
    rw [hlast.refunds, h.refundsOf_after, h.quotesOf_after, quotesOf_cons h.quote?_eq]
    split <;> simp

theorem Balanced.createRefunds_outcome {g after : Gateway} (hbalanced : g.Balanced)
    {calls : List (UInt64 × RefundRequest)} (hnonneg : g.AsksNonnegative calls)
    (h : g.createRefunds calls = .ok after) : g.Outcome calls after := by
  induction calls generalizing g with
  | nil =>
    obtain rfl : g = after := Except.ok.inj h
    refine ⟨fun space id ↦ ?_, fun space id ↦ (List.append_nil _).symm⟩
    cases g.transaction? space id with
    | none => exact .none
    | some t => exact .some ⟨rfl, (add_zero _).symm⟩
  | cons c rest ih =>
    obtain ⟨space, request⟩ := c
    unfold createRefunds at h
    obtain ⟨⟨refund, next⟩, hcreated, hrest⟩ := bind_eq_ok.mp h
    obtain ⟨t, total, hbooked⟩ := booked_of_createRefund hcreated
    obtain ⟨hamount, hlater⟩ := hbooked.asksNonnegative hnonneg
    apply hbooked.outcome (hbalanced _ _ t hbooked.found) hamount
    exact ih (hbooked.balanced_after hbalanced hamount) hlater hrest

/-- **The order of a batch does not matter.**  Where transactions are balanced and no request is
worth less than nothing, a batch that is accepted in one order is accepted in every order, with the
same refunded amounts and the same refunds up to their numbers and their order. -/
theorem createRefunds_perm (g : Gateway)
    (hbalanced : ∀ space id t, g.transaction? space id = some t → t.Balanced)
    {calls calls' : List (UInt64 × RefundRequest)}
    (hprice : ∀ c ∈ calls, ∀ t, g.transaction? c.1 c.2.transaction = some t →
      ∀ amount, c.2.value t = .ok amount → 0 ≤ amount)
    (hperm : calls.Perm calls') {after : Gateway} (h : g.createRefunds calls = .ok after) :
    ∃ after', g.createRefunds calls' = .ok after' ∧
      (∀ space id, Option.Rel
        (fun t t' ↦ t' = { t with refunded := t'.refunded } ∧
          t'.refunded.toRat = t.refunded.toRat)
        (after.transaction? space id) (after'.transaction? space id)) ∧
      ∀ space id, ((after.refundsOf space id).map Refund.unnumbered).Perm
        ((after'.refundsOf space id).map Refund.unnumbered) := by
  have hbalances : g.Balanced := hbalanced
  have hnonneg : g.AsksNonnegative calls := by
    intro c hc quote hquote
    obtain ⟨t, ht, hquote⟩ := Option.bind_eq_some_iff.mp hquote
    obtain ⟨-, hamount, -⟩ := RefundRequest.quote?_eq_some_iff.mp hquote
    exact (Decimal.toRat_nonneg_iff _).mp (hprice c hc t ht _ hamount)
  have hnonneg' : g.AsksNonnegative calls' := fun c hc ↦ hnonneg c (hperm.mem_iff.mpr hc)
  have hfits : g.Fits calls := (hbalances.exists_createRefunds_iff hnonneg).mp ⟨after, h⟩
  obtain ⟨after', h'⟩ := (hbalances.exists_createRefunds_iff hnonneg').mpr (hfits.perm hperm)
  have hout := hbalances.createRefunds_outcome hnonneg h
  have hout' := hbalances.createRefunds_outcome hnonneg' h'
  refine ⟨after', h', fun space id ↦ ?_, fun space id ↦ ?_⟩
  · have hfirst := hout.transactions space id
    have hsecond := hout'.transactions space id
    rw [← asked_perm hperm] at hsecond
    generalize g.transaction? space id = t?, after.transaction? space id = last?,
      after'.transaction? space id = last'? at hfirst hsecond ⊢
    cases hfirst with
    | none =>
      cases hsecond
      exact .none
    | some hlast =>
      cases hsecond with
      | some hlast' =>
        refine .some ⟨?_, hlast'.2.trans hlast.2.symm⟩
        rw [hlast'.1, hlast.1]
  · rw [hout.refunds, hout'.refunds]
    exact (quotesOf_perm hperm space id).append_left _

theorem balanced_hatAndSock : (holding hatAndSock).Balanced := by
  intro space id t ht
  rw [eq_of_transaction?_holding ht]
  exact hatAndSock_balanced

/-- Three requests that together ask for all of the hat and the sock. -/
def hatAndSockBatch : List (UInt64 × RefundRequest) :=
  [(1, hatAndSockRequest (some (.ofUInt32 20)) []),
    (1, hatAndSockRequest none [⟨"hat", 1, 0⟩]),
    (1, hatAndSockRequest (some (.ofUInt32 30)) [])]

theorem createRefunds_perm_hatAndSock :
    ∃ after, (holding hatAndSock).createRefunds hatAndSockBatch.reverse = .ok after ∧
      (after.transaction? 1 42).map (·.refunded.toRat) = some 60 ∧
      ((after.refundsOf 1 42).map (·.amount)).Perm [.ofUInt32 20, .ofUInt32 10, .ofUInt32 30] := by
  have hprice : ∀ c ∈ hatAndSockBatch, ∀ t,
      (holding hatAndSock).transaction? c.1 c.2.transaction = some t →
      ∀ amount, c.2.value t = .ok amount → 0 ≤ amount := by
    intro c hc t ht amount hvalue
    rw [eq_of_transaction?_holding ht] at hvalue
    simp only [hatAndSockBatch, List.mem_cons, List.not_mem_nil, or_false] at hc
    rcases hc with rfl | rfl | rfl <;> cases hvalue <;> decide
  have hforward : ((holding hatAndSock).createRefunds hatAndSockBatch).toOption.map
      (fun after ↦ ((after.transaction? 1 42).map (·.refunded),
        (after.refundsOf 1 42).map (·.amount))) =
      some (some (.ofUInt32 60), [.ofUInt32 20, .ofUInt32 10, .ofUInt32 30]) := by
    decide +kernel
  cases hcalls : (holding hatAndSock).createRefunds hatAndSockBatch with
  | error cause =>
    rw [hcalls] at hforward
    cases hforward
  | ok first =>
    rw [hcalls] at hforward
    obtain ⟨htransaction, hrefunds⟩ := Prod.mk.inj (Option.some.inj hforward)
    obtain ⟨after, hafter, hsame, hperm⟩ := createRefunds_perm (holding hatAndSock)
      balanced_hatAndSock hprice hatAndSockBatch.reverse_perm.symm hcalls
    refine ⟨after, hafter, ?_, ?_⟩
    · have h := hsame 1 42
      obtain ⟨t, ht, hrefunded⟩ := Option.map_eq_some_iff.mp htransaction
      rw [ht] at h
      generalize after.transaction? 1 42 = t'? at h ⊢
      cases h with
      | some hsum =>
        rw [Option.map_some, hsum.2, hrefunded, Decimal.toRat_ofUInt32]
        rfl
    · have h := (hperm 1 42).symm.map (·.amount)
      rw [List.map_map, List.map_map] at h
      exact h.trans (.of_eq hrefunds)

end Gateway
end ShopPayments
