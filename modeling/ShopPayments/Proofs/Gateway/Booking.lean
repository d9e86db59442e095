import ShopPayments.Gateway
import ShopPayments.Proofs.Money
import ShopPayments.Proofs.Outcome
import ShopPayments.Proofs.Table

/-!
# What booking a refund does

A call to refund a transaction either changes nothing or books exactly one refund
(`booked_of_createRefund`): the transaction under the key takes the new refunded amount, its list
of refunds grows by one, and everything else stays.  `Gateway.Extends` relates a state to every
later one: transactions keep all fields but the refunded amount, and lists of refunds only grow.
-/

namespace ShopPayments

/-! ## Pricing -/

/-- What a request is worth does not depend on what was refunded before. -/
theorem RefundRequest.value_congr {t t' : Transaction} (h : t' = { t with refunded := t'.refunded })
    (request : RefundRequest) : request.value t' = request.value t := by
  rw [h]
  rfl

theorem RefundRequest.value_isCents {t : Transaction} {request : RefundRequest} {amount : Decimal}
    (h : request.value t = .ok amount) : Money.IsCents amount.toRat := by
  unfold value at h
  split at h
  · rw [← Except.ok.inj h]
    exact Money.round_isCents _
  · simp only [bind_eq_ok, pure_eq_ok] at h
    obtain ⟨total, -, rfl⟩ := h
    exact Money.round_isCents _

/-! ## A service with one transaction -/

/-- A hat of ten. -/
def hat : TransactionItem := ⟨"hat", "Hat", none, 1, .ofUInt32 10, .ofUInt32 10, .product⟩

/-- A hat and a sock that were paid with sixty. -/
def hatAndSock : Transaction where
  id := 42
  space := 1
  state := .fulfill
  merchantReference := none
  currency := "EUR"
  authorized := .ofUInt32 60
  captured := .ofUInt32 60
  refunded := 0
  items := [hat, ⟨"sock", "Sock", none, 1, .ofUInt32 50, .ofUInt32 50, .product⟩]
  supportsRefunds := true

namespace Gateway

/-- A service with one transaction and no refunds. -/
def holding (t : Transaction) : Gateway := empty.insertTransaction t

theorem transaction?_holding (t : Transaction) (space id : UInt64) :
    (holding t).transaction? space id = if t.key = (space, id) then some t else none :=
  Table.get?_insert _ _ _ _

theorem eq_of_transaction?_holding {t t' : Transaction} {space id : UInt64}
    (h : (holding t).transaction? space id = some t') : t' = t := by
  rw [transaction?_holding] at h
  split at h
  · exact (Option.some.inj h).symm
  · cases h

@[simp]
theorem refundsOf_holding (t : Transaction) (space id : UInt64) :
    (holding t).refundsOf space id = [] := rfl

/-! ## One call -/

/-- A request was booked on a transaction, which then has the given total of refunds. -/
structure Booked (g : Gateway) (space : UInt64) (request : RefundRequest) (t : Transaction)
    (total : Decimal) (refund : Refund) (after : Gateway) : Prop where
  found : g.transaction? space request.transaction = some t
  supported : t.supportsRefunds = true
  priced : request.value t = .ok refund.amount
  within : ∃ available, t.captured.sub t.refunded = .ok available ∧ refund.amount ≤ available
  total_eq : t.refunded.add refund.amount = .ok total
  sequence_lt : g.sequence.toNat + 1 < UInt64.size
  refund_eq : refund =
    { id := g.sequence + 1, space := t.space, transaction := t.id, state := .successful
      amount := refund.amount, externalId := request.externalId
      reductions := request.reductions }
  after_eq : after =
    { g with
      transactions :=
        g.transactions.insert (space, request.transaction) { t with refunded := total }
      refunds := g.refunds.append (space, request.transaction) refund
      sequence := g.sequence + 1 }

theorem booked_of_createRefund {g after : Gateway} {space : UInt64} {request : RefundRequest}
    {refund : Refund} (h : g.createRefund space request = .ok (refund, after)) :
    ∃ t total, g.Booked space request t total refund after := by
  unfold createRefund at h
  simp only [bind_eq_ok, pure_eq_ok, Prod.mk.injEq] at h
  obtain ⟨id, hid, t, ht, booking, hbook, rfl, rfl⟩ := h
  unfold nextId at hid
  unfold transaction at ht
  unfold Transaction.book at hbook
  simp only [guard_eq_ok, bind_eq_ok, pure_eq_ok, liftOverflow_eq_ok] at hbook
  obtain ⟨hsupported, amount, hamount, available, havailable, hwithin, total, htotal, rfl⟩ := hbook
  split at hid
  next hroom =>
    split at ht
    next t' hfound =>
      obtain rfl : t' = t := Except.ok.inj ht
      obtain rfl : g.sequence + 1 = id := Except.ok.inj hid
      refine ⟨t', total, hfound, by simpa using hsupported, hamount,
        ⟨available, havailable, Decimal.not_lt_iff_le.mp hwithin⟩, htotal, hroom, rfl, rfl⟩
    next => simp at ht
  next => simp at hid

namespace Booked

variable {g after : Gateway} {space : UInt64} {request : RefundRequest} {t : Transaction}
  {total : Decimal} {refund : Refund}

theorem transaction?_after (h : g.Booked space request t total refund after)
    (s id : UInt64) :
    after.transaction? s id =
      if (space, request.transaction) = (s, id) then some { t with refunded := total }
      else g.transaction? s id := by
  rw [h.after_eq]
  exact Table.get?_insert _ _ _ _

theorem refundsOf_after (h : g.Booked space request t total refund after) (s id : UInt64) :
    after.refundsOf s id =
      if (space, request.transaction) = (s, id) then g.refundsOf s id ++ [refund]
      else g.refundsOf s id := by
  rw [h.after_eq]
  exact Table.getD_get?_append _ _ _ _

/-- The refund takes the number after the last one, and there was one. -/
theorem toNat_sequence_after (h : g.Booked space request t total refund after) :
    after.sequence.toNat = g.sequence.toNat + 1 := by
  rw [h.after_eq, UInt64.toNat_add, UInt64.toNat_one]
  exact Nat.mod_eq_of_lt h.sequence_lt

theorem after_ne (h : g.Booked space request t total refund after) : after ≠ g := by
  intro hsame
  have hnumber := h.toNat_sequence_after
  rw [hsame] at hnumber
  omega

/-- What a call booked can be told from the state after it. -/
theorem unique {space' : UInt64} {request' : RefundRequest} {t' : Transaction} {total' : Decimal}
    {refund' : Refund} (h : g.Booked space request t total refund after)
    (h' : g.Booked space' request' t' total' refund' after) : t = t' ∧ refund = refund' := by
  have hrefunds := h.refundsOf_after space request.transaction
  rw [if_pos rfl, h'.refundsOf_after] at hrefunds
  split at hrefunds
  next hkey =>
    obtain ⟨rfl, hid⟩ := Prod.mk.inj hkey
    rw [List.append_cancel_left_eq, List.singleton_inj] at hrefunds
    exact ⟨Option.some.inj (h.found.symm.trans (hid ▸ h'.found)), hrefunds.symm⟩
  next => simp at hrefunds

theorem id_eq (h : g.Booked space request t total refund after) : refund.id = after.sequence := by
  rw [h.refund_eq, h.after_eq]

theorem reductions_eq (h : g.Booked space request t total refund after) :
    refund.reductions = request.reductions := by
  rw [h.refund_eq]

theorem state_eq (h : g.Booked space request t total refund after) :
    refund.state = .successful := by
  rw [h.refund_eq]

theorem amount_isCents (h : g.Booked space request t total refund after) :
    Money.IsCents refund.amount.toRat := RefundRequest.value_isCents h.priced

end Booked

/-! ## Later states -/

/-- The transactions of the first state are those of the second up to what was refunded of them,
and their refunds begin with those of the first. -/
structure Extends (g later : Gateway) : Prop where
  some : ∀ space id t, g.transaction? space id = some t →
    ∃ refunded, later.transaction? space id = some { t with refunded }
  none : ∀ space id, g.transaction? space id = none → later.transaction? space id = none
  refunds : ∀ space id, ∃ booked, later.refundsOf space id = g.refundsOf space id ++ booked

namespace Extends

variable {g later last : Gateway}

theorem refl (g : Gateway) : g.Extends g where
  some := fun _ _ t h ↦ ⟨t.refunded, h⟩
  none := fun _ _ h ↦ h
  refunds := fun _ _ ↦ ⟨[], (List.append_nil _).symm⟩

theorem trans (h : g.Extends later) (h' : later.Extends last) : g.Extends last where
  some := by
    intro space id t ht
    obtain ⟨refunded, ht'⟩ := h.some space id t ht
    obtain ⟨refunded', ht''⟩ := h'.some space id _ ht'
    exact ⟨refunded', ht''⟩
  none := fun space id ht ↦ h'.none space id (h.none space id ht)
  refunds := by
    intro space id
    obtain ⟨booked, hbooked⟩ := h.refunds space id
    obtain ⟨booked', hbooked'⟩ := h'.refunds space id
    exact ⟨booked ++ booked', by rw [hbooked', hbooked, List.append_assoc]⟩

theorem exists_later (h : g.Extends later) {space id : UInt64} {t : Transaction}
    (ht : g.transaction? space id = Option.some t) :
    ∃ t', later.transaction? space id = Option.some t' ∧
      t' = { t with refunded := t'.refunded } := by
  obtain ⟨refunded, hlater⟩ := h.some space id t ht
  exact ⟨_, hlater, rfl⟩

/-- Every transaction of a later state was there before. -/
theorem exists_of_some (h : g.Extends later) {space id : UInt64} {t' : Transaction}
    (ht' : later.transaction? space id = Option.some t') :
    ∃ t, g.transaction? space id = Option.some t ∧ t' = { t with refunded := t'.refunded } := by
  cases ht : g.transaction? space id with
  | none =>
    rw [h.none space id ht] at ht'
    cases ht'
  | some t =>
    obtain ⟨refunded, hlater⟩ := h.some space id t ht
    rw [ht', Option.some.injEq] at hlater
    exact ⟨t, rfl, by rw [hlater]⟩

end Extends

theorem Booked.extends {g after : Gateway} {space : UInt64} {request : RefundRequest}
    {t : Transaction} {total : Decimal} {refund : Refund}
    (h : g.Booked space request t total refund after) : g.Extends after where
  some := by
    intro s id t' ht'
    rw [h.transaction?_after]
    split
    next hkey =>
      obtain ⟨rfl, rfl⟩ := Prod.mk.inj hkey
      rw [h.found, Option.some.injEq] at ht'
      exact ⟨total, by rw [ht']⟩
    next => exact ⟨t'.refunded, ht'⟩
  none := by
    intro s id hnone
    rw [h.transaction?_after]
    split
    next hkey =>
      obtain ⟨rfl, rfl⟩ := Prod.mk.inj hkey
      rw [h.found] at hnone
      cases hnone
    next => exact hnone
  refunds := by
    intro s id
    rw [h.refundsOf_after]
    split
    · exact ⟨[refund], rfl⟩
    · exact ⟨[], (List.append_nil _).symm⟩

end Gateway
end ShopPayments
