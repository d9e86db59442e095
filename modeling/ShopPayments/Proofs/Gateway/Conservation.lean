import ShopPayments.Proofs.Gateway.Booking

/-!
# Money is conserved

Clients call the gateway in any order, with requests built from transactions as they were some
time ago, and calls may fail.  Whatever the sequence of calls is, what a transaction was refunded
stays between nothing and what was captured, and it grows by exactly the amounts of the refunds
booked since the start, as long as no request is worth less than nothing.
-/

namespace ShopPayments

/-- What was refunded lies between nothing and what was captured, both whole cents. -/
structure Transaction.Balanced (t : Transaction) : Prop where
  refunded_nonneg : 0 ≤ t.refunded.toRat
  refunded_le : t.refunded.toRat ≤ t.captured.toRat
  captured_lt : t.captured.toRat < 10 ^ 15
  captured_isCents : Money.IsCents t.captured.toRat
  refunded_isCents : Money.IsCents t.refunded.toRat

theorem Money.hundredths_lt {x : ℚ} (hlow : 0 ≤ x) (hhigh : x < 10 ^ 15) :
    |x| * 100 < Decimal.magnitudeBound := by
  have hbound : (10 : ℚ) ^ 15 * 100 < Decimal.magnitudeBound := by
    norm_num [Decimal.magnitudeBound_eq]
  rw [abs_of_nonneg hlow]
  linarith

namespace Gateway

/-! ## One booking -/

namespace Booked

variable {g after : Gateway} {space : UInt64} {request : RefundRequest} {t : Transaction}
  {total : Decimal} {refund : Refund}

theorem amount_le (h : g.Booked space request t total refund after) (ht : t.Balanced) :
    refund.amount.toRat ≤ t.captured.toRat - t.refunded.toRat := by
  obtain ⟨available, havailable, hle⟩ := h.within
  have hexact : available.toRat = t.captured.toRat - t.refunded.toRat :=
    (Decimal.sub_stores havailable).toRat_eq_of_isCents
      (ht.captured_isCents.sub ht.refunded_isCents)
      (Money.hundredths_lt (by linarith [ht.refunded_le])
        (by linarith [ht.refunded_nonneg, ht.captured_lt]))
  rw [← hexact]
  exact Decimal.le_iff_toRat_le.mp hle

/-- The total is exact: it is cents, and at most what was captured. -/
theorem total_toRat (h : g.Booked space request t total refund after) (ht : t.Balanced)
    (hamount : 0 ≤ refund.amount.toRat) :
    total.toRat = t.refunded.toRat + refund.amount.toRat := by
  have hle := h.amount_le ht
  exact (Decimal.add_stores h.total_eq).toRat_eq_of_isCents
    (ht.refunded_isCents.add h.amount_isCents)
    (Money.hundredths_lt (by linarith [ht.refunded_nonneg]) (by linarith [ht.captured_lt]))

theorem balanced (h : g.Booked space request t total refund after) (ht : t.Balanced)
    (hamount : 0 ≤ refund.amount.toRat) : { t with refunded := total : Transaction }.Balanced := by
  have htotal := h.total_toRat ht hamount
  have hle := h.amount_le ht
  refine ⟨?_, ?_, ht.captured_lt, ht.captured_isCents, ?_⟩
  · rw [htotal]
    linarith [ht.refunded_nonneg]
  · rw [htotal]
    linarith
  · rw [htotal]
    exact ht.refunded_isCents.add h.amount_isCents

end Booked

/-! ## Sequences of calls -/

/-- The state after a call; a failing call changes nothing. -/
def call (g : Gateway) (space : UInt64) (request : RefundRequest) : Gateway :=
  match g.createRefund space request with
  | .ok (_, after) => after
  | .error _ => g

/-- The refund that a call creates, if it does not fail. -/
def created (g : Gateway) (space : UInt64) (request : RefundRequest) : List Refund :=
  match g.createRefund space request with
  | .ok (refund, _) => [refund]
  | .error _ => []

/-- The state after a sequence of calls, each with its space. -/
def afterCalls (g : Gateway) (calls : List (UInt64 × RefundRequest)) : Gateway :=
  calls.foldl (fun g c ↦ g.call c.1 c.2) g

theorem created_cases (g : Gateway) (space : UInt64) (request : RefundRequest) :
    (g.created space request = [] ∧ g.call space request = g) ∨
      ∃ t total refund, g.created space request = [refund] ∧
        g.Booked space request t total refund (g.call space request) := by
  unfold created call
  cases hcall : g.createRefund space request with
  | error cause => exact Or.inl ⟨rfl, rfl⟩
  | ok result =>
    obtain ⟨t, total, hbooked⟩ := booked_of_createRefund hcall
    exact Or.inr ⟨t, total, result.1, rfl, hbooked⟩

theorem call_cases (g : Gateway) (space : UInt64) (request : RefundRequest) :
    g.call space request = g ∨
      ∃ t total refund, g.Booked space request t total refund (g.call space request) := by
  rcases g.created_cases space request with ⟨-, hsame⟩ | ⟨t, total, refund, -, hbooked⟩
  · exact Or.inl hsame
  · exact Or.inr ⟨t, total, refund, hbooked⟩

theorem extends_call (g : Gateway) (space : UInt64) (request : RefundRequest) :
    g.Extends (g.call space request) := by
  rcases g.call_cases space request with hsame | ⟨t, total, refund, hbooked⟩
  · rw [hsame]
    exact .refl g
  · exact hbooked.extends

theorem extends_afterCalls (g : Gateway) (calls : List (UInt64 × RefundRequest)) :
    g.Extends (g.afterCalls calls) := by
  induction calls generalizing g with
  | nil => exact .refl g
  | cons c rest ih => exact (g.extends_call c.1 c.2).trans (ih (g.call c.1 c.2))

/-- A request that is not worth less than nothing, if it can be priced at all. -/
def Nonnegative (g : Gateway) (space : UInt64) (request : RefundRequest) : Prop :=
  ∀ t, g.transaction? space request.transaction = some t →
    ∀ amount, request.value t = .ok amount → 0 ≤ amount

/-- Every transaction of the later state is one of the first, with the refunds booked since added
to what was refunded of it. -/
def Conserved (g later : Gateway) : Prop :=
  ∀ space id t', later.transaction? space id = some t' →
    ∃ t booked, g.transaction? space id = some t ∧
      later.refundsOf space id = g.refundsOf space id ++ booked ∧
      t' = { t with refunded := t'.refunded } ∧ t'.Balanced ∧
      t'.refunded.toRat = t.refunded.toRat + (booked.map (·.amount.toRat)).sum

theorem conserved_refl {g : Gateway}
    (hbalanced : ∀ space id t, g.transaction? space id = some t → t.Balanced) :
    g.Conserved g := by
  intro space id t ht
  exact ⟨t, [], ht, (List.append_nil _).symm, rfl, hbalanced space id t ht, by simp⟩

theorem Conserved.call {g later : Gateway} (h : g.Conserved later) {space : UInt64}
    {request : RefundRequest} (hprice : g.Nonnegative space request) :
    g.Conserved (later.call space request) := by
  rcases later.call_cases space request with hsame | ⟨t, total, refund, hbooked⟩
  · rw [hsame]
    exact h
  · intro s id t' ht'
    rw [hbooked.transaction?_after] at ht'
    rw [hbooked.refundsOf_after]
    split at ht'
    next hkey =>
      -- The refund is booked on this very transaction.
      obtain ⟨rfl, rfl⟩ := Prod.mk.inj hkey
      obtain ⟨first, booked, hfirst, hrefunds, hsame, hbalanced, hsum⟩ := h _ _ t hbooked.found
      have hvalue : request.value first = .ok refund.amount := by
        rw [← hbooked.priced, RefundRequest.value_congr hsame]
      have hamount : 0 ≤ refund.amount.toRat :=
        (Decimal.toRat_nonneg_iff _).mp (hprice first hfirst _ hvalue)
      obtain rfl := Option.some.inj ht'
      refine ⟨first, booked ++ [refund], hfirst, ?_, ?_, hbooked.balanced hbalanced hamount, ?_⟩
      · rw [if_pos rfl, hrefunds, List.append_assoc]
      · rw [hsame]
      · rw [hbooked.total_toRat hbalanced hamount, hsum]
        simp [add_assoc]
    next hkey =>
      rw [if_neg hkey]
      exact h s id t' ht'

theorem Conserved.afterCalls {g later : Gateway} (h : g.Conserved later)
    {calls : List (UInt64 × RefundRequest)} (hprice : ∀ c ∈ calls, g.Nonnegative c.1 c.2) :
    g.Conserved (later.afterCalls calls) := by
  induction calls generalizing later with
  | nil => exact h
  | cons c rest ih =>
    have hfirst := h.call (hprice c List.mem_cons_self)
    exact ih hfirst fun c' hc' ↦ hprice c' (List.mem_cons_of_mem _ hc')

/-- Whatever calls are made, every transaction stays, what was refunded of it stays between nothing
and what was captured, and it grows by exactly the amounts of the refunds booked. -/
theorem afterCalls_conserved (g : Gateway) (calls : List (UInt64 × RefundRequest))
    (hbalanced : ∀ space id t, g.transaction? space id = some t → t.Balanced)
    (hprice : ∀ c ∈ calls, ∀ t, g.transaction? c.1 c.2.transaction = some t →
      ∀ amount, c.2.value t = .ok amount → 0 ≤ amount)
    (space id : UInt64) :
    (g.transaction? space id = none ∧ (g.afterCalls calls).transaction? space id = none) ∨
      ∃ t t' booked, g.transaction? space id = some t ∧
        (g.afterCalls calls).transaction? space id = some t' ∧
        (g.afterCalls calls).refundsOf space id = g.refundsOf space id ++ booked ∧
        t' = { t with refunded := t'.refunded } ∧
        0 ≤ t'.refunded ∧ t'.refunded ≤ t'.captured ∧
        t'.refunded.toRat = t.refunded.toRat + (booked.map (·.amount.toRat)).sum := by
  have hext := g.extends_afterCalls calls
  have hconserved : g.Conserved (g.afterCalls calls) :=
    (conserved_refl hbalanced).afterCalls hprice
  cases hlast : (g.afterCalls calls).transaction? space id with
  | none =>
    left
    cases hfirst : g.transaction? space id with
    | none => exact ⟨rfl, rfl⟩
    | some t =>
      obtain ⟨refunded, hlater⟩ := hext.some space id t hfirst
      rw [hlast] at hlater
      cases hlater
  | some t' =>
    right
    obtain ⟨t, booked, ht, hrefunds, hsame, hbalance, hsum⟩ := hconserved space id t' hlast
    exact ⟨t, t', booked, ht, rfl, hrefunds, hsame,
      (Decimal.toRat_nonneg_iff _).mpr hbalance.refunded_nonneg,
      Decimal.le_iff_toRat_le.mpr hbalance.refunded_le, hsum⟩

theorem hatAndSock_balanced : hatAndSock.Balanced where
  refunded_nonneg := (Decimal.toRat_nonneg_iff _).mp (by decide)
  refunded_le := Decimal.le_iff_toRat_le.mp (by decide)
  captured_lt := by
    rw [show hatAndSock.captured = .ofUInt32 60 from rfl, Decimal.toRat_ofUInt32]
    exact_mod_cast (by decide : (60 : UInt32).toNat < 10 ^ 15)
  captured_isCents := Money.isCents_of_scale_le (by decide)
  refunded_isCents := Money.isCents_of_scale_le (by decide)

/-- A request by amount or by line items. -/
def hatAndSockRequest (amount : Option Decimal) (reductions : List Reduction) :
    RefundRequest where
  amount
  externalId := "refund_token"
  merchantReference := none
  reductions
  transaction := 42
  type := .merchantOnline

/-- The third call exceeds what is left, and the fourth one is made in another space. -/
def hatAndSockCalls : List (UInt64 × RefundRequest) :=
  [(1, hatAndSockRequest (some (.ofUInt32 20)) []),
    (1, hatAndSockRequest none [⟨"hat", 1, 0⟩]),
    (1, hatAndSockRequest none [⟨"sock", 1, 0⟩]),
    (2, hatAndSockRequest (some (.ofUInt32 5)) [])]

theorem afterCalls_conserved_hatAndSock :
    ∃ t' booked,
      ((holding hatAndSock).afterCalls hatAndSockCalls).transaction? 1 42 = some t' ∧
      ((holding hatAndSock).afterCalls hatAndSockCalls).refundsOf 1 42 = booked ∧
      t'.refunded ≤ t'.captured ∧
      t'.refunded.toRat = (booked.map (·.amount.toRat)).sum := by
  have hbalanced : ∀ space id t, (holding hatAndSock).transaction? space id = some t →
      t.Balanced := by
    intro space id t ht
    rw [eq_of_transaction?_holding ht]
    exact hatAndSock_balanced
  have hprice : ∀ c ∈ hatAndSockCalls, ∀ t,
      (holding hatAndSock).transaction? c.1 c.2.transaction = some t →
      ∀ amount, c.2.value t = .ok amount → 0 ≤ amount := by
    intro c hc t ht amount hvalue
    rw [eq_of_transaction?_holding ht] at hvalue
    simp only [hatAndSockCalls, List.mem_cons, List.not_mem_nil, or_false] at hc
    rcases hc with rfl | rfl | rfl | rfl <;> cases hvalue <;> decide
  rcases afterCalls_conserved (holding hatAndSock) hatAndSockCalls hbalanced hprice 1 42 with
    ⟨hnone, -⟩ | ⟨t, t', booked, ht, ht', hrefunds, -, -, hle, hsum⟩
  · cases hnone
  · obtain rfl : hatAndSock = t := Option.some.inj ht
    rw [show hatAndSock.refunded = 0 from rfl, Decimal.toRat_zero, zero_add] at hsum
    exact ⟨t', booked, ht', hrefunds, hle, hsum⟩

end Gateway
end ShopPayments
