import Mathlib.Data.Nat.Notation
import ShopPayments.PaymentMethod
import ShopPayments.Proofs.Table

/-!
# Synchronising payment methods

A synchronisation writes to the store that it reads again: first every method that the space
offers, then every stored method of the space that is active and not among these.  What the store
holds afterwards is told by one equation (`get?_synchronize`): under an id that the space offers
the last offer, under any other id what was there before, deactivated if it belongs to the space.
From it follows that the space ends up with exactly its offers active, that nothing of another
space is touched, and that doing it again changes nothing.
-/

namespace ShopPayments
namespace MethodStore

open StoredMethod

variable {s : MethodStore} {space : UInt64} {methods : List PaymentMethod}

theorem get?_foldl_store (stored : List StoredMethod) (s : MethodStore) (id : String) :
    (stored.foldl store s).get? id = (stored.filter (·.id = id)).getLast?.or (s.get? id) :=
  Table.get?_foldl_insert StoredMethod.id stored s id

theorem keyedBy_store (h : s.KeyedBy StoredMethod.id) (m : StoredMethod) :
    (s.store m).KeyedBy StoredMethod.id := h.insert m

theorem keyedBy_foldl_store (h : s.KeyedBy StoredMethod.id) (stored : List StoredMethod) :
    (stored.foldl store s).KeyedBy StoredMethod.id := h.foldl_insert stored

theorem mem_ofSpace_iff (h : s.KeyedBy StoredMethod.id) {m : StoredMethod} :
    m ∈ s.ofSpace space ↔ s.get? m.id = some m ∧ m.space = space := by
  rw [ofSpace, List.mem_mergeSort, List.mem_filter, h.mem_values_iff, decide_eq_true_iff]

/-! ## Offers -/

/-- The last active method of a space that the shop knows under an id. -/
def lastOffer (space : UInt64) (methods : List PaymentMethod) (id : String) :
    Option PaymentMethod :=
  (methods.filter fun m ↦ m.state = .active ∧ idFor space m.id = id).getLast?

theorem lastOffer_eq_some {id : String} {m : PaymentMethod}
    (h : lastOffer space methods id = some m) :
    m ∈ methods ∧ m.state = .active ∧ idFor space m.id = id := by
  have hmem := List.mem_of_getLast? h
  simpa [List.mem_filter] using hmem

theorem lastOffer_eq_none_iff {id : String} :
    lastOffer space methods id = none ↔ id ∉ (offered space methods).map (·.id) := by
  simp [lastOffer, offered, ofMethod]

/-- The store after the offers were written. -/
theorem get?_foldl_offered (s : MethodStore) (space : UInt64) (methods : List PaymentMethod)
    (id : String) :
    ((offered space methods).foldl store s).get? id =
      ((lastOffer space methods id).map (ofMethod space)).or (s.get? id) := by
  rw [get?_foldl_store, offered, List.filter_map, List.getLast?_map, List.filter_filter, lastOffer]
  congr 4
  funext m
  rw [Bool.decide_and]
  exact Bool.and_comm _ _

/-! ## Stale methods -/

/-- What becomes of a stored method that a space does not offer. -/
def retireFrom (space : UInt64) (m : StoredMethod) : StoredMethod :=
  if m.space = space then { m with active := false } else m

theorem retireFrom_of_inactive {m : StoredMethod} (h : m.space = space → m.active = false) :
    retireFrom space m = m := by
  unfold retireFrom
  split
  next hspace => rw [← h hspace]
  next => rfl

theorem isStale_iff {m : StoredMethod} :
    isStale (offered space methods) m = true ↔
      m.active = true ∧ lastOffer space methods m.id = none := by
  simp [isStale, lastOffer_eq_none_iff]

/-- The methods that a synchronisation deactivates, given the store with the offers. -/
def stale (stored : MethodStore) (space : UInt64) (methods : List PaymentMethod) :
    List StoredMethod := (stored.ofSpace space).filter (isStale (offered space methods))

theorem mem_stale_iff {stored : MethodStore} (h : stored.KeyedBy StoredMethod.id)
    {m : StoredMethod} : m ∈ stale stored space methods ↔
      stored.get? m.id = some m ∧ m.space = space ∧ m.active = true ∧
        lastOffer space methods m.id = none := by
  rw [stale, List.mem_filter, mem_ofSpace_iff h, isStale_iff, and_assoc]

/-- The store after the stale methods were deactivated. -/
theorem get?_foldl_retire {stored : MethodStore} (h : stored.KeyedBy StoredMethod.id)
    (space : UInt64) (methods : List PaymentMethod) (id : String) :
    ((stale stored space methods).foldl (fun s m ↦ s.store { m with active := false })
        stored).get? id =
      if lastOffer space methods id = none then (stored.get? id).map (retireFrom space)
      else stored.get? id := by
  rw [← List.foldl_map (f := fun m : StoredMethod ↦ { m with active := false }) (g := store),
    get?_foldl_store]
  cases hlast : (((stale stored space methods).map
      fun m ↦ { m with active := false }).filter (·.id = id)).getLast? with
  | some cleared =>
    have hmem := List.mem_of_getLast? hlast
    rw [List.mem_filter, List.mem_map, decide_eq_true_iff] at hmem
    obtain ⟨⟨m, hm, rfl⟩, rfl⟩ := hmem
    obtain ⟨hstored, hspace, -, hoffer⟩ := (mem_stale_iff h).mp hm
    rw [if_pos hoffer, hstored]
    simp [retireFrom, hspace]
  | none =>
    -- A method of the space that is not stale was inactive before.
    rw [List.getLast?_eq_none_iff, List.filter_eq_nil_iff] at hlast
    split
    next hoffer =>
      cases hstored : stored.get? id with
      | none => rfl
      | some m =>
        obtain rfl := h id m hstored
        have hkept : retireFrom space m = m := by
          apply retireFrom_of_inactive
          intro hspace
          apply Bool.eq_false_iff.mpr
          intro hactive
          have hm := (mem_stale_iff h).mpr ⟨hstored, hspace, hactive, hoffer⟩
          exact hlast _ (List.mem_map_of_mem hm) (decide_eq_true rfl)
        rw [Option.map_some, hkept]
        rfl
    next => exact Option.none_or

theorem get?_synchronize (h : s.KeyedBy StoredMethod.id) (space : UInt64)
    (methods : List PaymentMethod) (id : String) :
    (s.synchronize space methods).2.get? id =
      ((lastOffer space methods id).map (ofMethod space)).or
        ((s.get? id).map (retireFrom space)) := by
  have hretire := get?_foldl_retire (keyedBy_foldl_store h (offered space methods)) space methods id
  rw [get?_foldl_offered] at hretire
  refine hretire.trans ?_
  cases hoffer : lastOffer space methods id with
  | none => simp
  | some m => simp

theorem keyedBy_synchronize (h : s.KeyedBy StoredMethod.id) (space : UInt64)
    (methods : List PaymentMethod) :
    (s.synchronize space methods).2.KeyedBy StoredMethod.id := by
  have hstored := keyedBy_foldl_store (keyedBy_foldl_store h (offered space methods))
    ((stale ((offered space methods).foldl store s) space methods).map
      fun m ↦ { m with active := false })
  rw [List.foldl_map] at hstored
  exact hstored

/-! ## What a synchronisation leaves -/

theorem space_retireFrom (space : UInt64) (m : StoredMethod) :
    (retireFrom space m).space = m.space := by
  unfold retireFrom
  split <;> rfl

theorem active_retireFrom {m : StoredMethod} (hspace : m.space = space) :
    (retireFrom space m).active = false := by
  rw [retireFrom, if_pos hspace]

theorem retireFrom_of_ne {m : StoredMethod} (hspace : m.space ≠ space) :
    retireFrom space m = m := if_neg hspace

theorem retireFrom_retireFrom (space : UInt64) (m : StoredMethod) :
    retireFrom space (retireFrom space m) = retireFrom space m := by
  apply retireFrom_of_inactive
  rw [space_retireFrom]
  exact active_retireFrom

/-- The active methods of the space are its offers. -/
theorem get?_synchronize_active_iff (h : s.KeyedBy StoredMethod.id) {id : String}
    {m : StoredMethod} :
    ((s.synchronize space methods).2.get? id = some m ∧ m.space = space ∧ m.active = true) ↔
      ∃ c, lastOffer space methods id = some c ∧ m = ofMethod space c := by
  rw [get?_synchronize h]
  cases hoffer : lastOffer space methods id with
  | some c =>
    simp only [Option.map_some, Option.some_or, Option.some.injEq, exists_eq_left']
    constructor
    · rintro ⟨rfl, -, -⟩
      rfl
    · rintro rfl
      exact ⟨rfl, rfl, rfl⟩
  | none =>
    simp only [Option.map_none, Option.none_or, reduceCtorEq, false_and, exists_false, iff_false,
      Option.map_eq_some_iff]
    rintro ⟨⟨m', -, rfl⟩, hspace, hactive⟩
    rw [space_retireFrom] at hspace
    rw [active_retireFrom hspace] at hactive
    cases hactive

theorem get?_synchronize_of_not_offered (h : s.KeyedBy StoredMethod.id) {id : String}
    {m : StoredMethod} (hm : s.get? id = some m) (hspace : m.space = space)
    (hoffer : lastOffer space methods id = none) :
    (s.synchronize space methods).2.get? id = some { m with active := false } := by
  rw [get?_synchronize h, hoffer, hm, Option.map_none, Option.none_or, Option.map_some, retireFrom,
    if_pos hspace]

theorem get?_synchronize_of_other_space (h : s.KeyedBy StoredMethod.id)
    (hforeign : ∀ c ∈ methods, c.state = .active →
      ∀ m, s.get? (idFor space c.id) = some m → m.space = space)
    {id : String} {m : StoredMethod} (hspace : m.space ≠ space) :
    (s.synchronize space methods).2.get? id = some m ↔ s.get? id = some m := by
  rw [get?_synchronize h]
  cases hoffer : lastOffer space methods id with
  | some c =>
    obtain ⟨hc, hactive, rfl⟩ := lastOffer_eq_some hoffer
    constructor
    · intro hm
      rw [← Option.some.inj hm] at hspace
      exact absurd rfl hspace
    · intro hm
      exact absurd (hforeign c hc hactive m hm) hspace
  | none =>
    rw [Option.map_none, Option.none_or, Option.map_eq_some_iff]
    constructor
    · rintro ⟨m', hm', rfl⟩
      rw [space_retireFrom] at hspace
      rw [hm', retireFrom_of_ne hspace]
    · intro hm
      exact ⟨m, hm, retireFrom_of_ne hspace⟩

theorem get?_synchronize_synchronize (h : s.KeyedBy StoredMethod.id) (id : String) :
    ((s.synchronize space methods).2.synchronize space methods).2.get? id =
      (s.synchronize space methods).2.get? id := by
  rw [get?_synchronize (keyedBy_synchronize h space methods), get?_synchronize h]
  cases lastOffer space methods id with
  | some c => rfl
  | none =>
    cases s.get? id with
    | none => rfl
    | some m => simp [retireFrom_retireFrom]

/-- Nothing is left to deactivate. -/
theorem stale_synchronize (h : s.KeyedBy StoredMethod.id) (space : UInt64)
    (methods : List PaymentMethod) :
    stale ((offered space methods).foldl store (s.synchronize space methods).2) space methods =
      [] := by
  have hkeyed := keyedBy_synchronize h space methods
  rw [List.eq_nil_iff_forall_not_mem]
  intro m hm
  obtain ⟨hstored, hspace, hactive, hoffer⟩ :=
    (mem_stale_iff (keyedBy_foldl_store hkeyed _)).mp hm
  rw [get?_foldl_offered, hoffer, Option.map_none, Option.none_or] at hstored
  obtain ⟨c, hc, -⟩ := (get?_synchronize_active_iff h).mp ⟨hstored, hspace, hactive⟩
  rw [hoffer] at hc
  cases hc

/-- **A synchronisation leaves the offers of its space active and nothing else of it, keeps what
is no longer offered as inactive, touches nothing of another space, and is done after one run.** -/
theorem synchronize_converges (h : s.KeyedBy StoredMethod.id)
    (hforeign : ∀ c ∈ methods, c.state = .active →
      ∀ m, s.get? (idFor space c.id) = some m → m.space = space) :
    (∀ id m, ((s.synchronize space methods).2.get? id = some m ∧ m.space = space ∧
        m.active = true) ↔ ∃ c, lastOffer space methods id = some c ∧ m = ofMethod space c) ∧
      (∀ id m, s.get? id = some m → m.space = space → lastOffer space methods id = none →
        (s.synchronize space methods).2.get? id = some { m with active := false }) ∧
      (∀ id m, m.space ≠ space →
        ((s.synchronize space methods).2.get? id = some m ↔ s.get? id = some m)) ∧
      (∀ id, ((s.synchronize space methods).2.synchronize space methods).2.get? id =
        (s.synchronize space methods).2.get? id) ∧
      ((s.synchronize space methods).2.synchronize space methods).1 =
        ⟨(s.synchronize space methods).1.activated, 0⟩ := by
  refine ⟨fun id m ↦ get?_synchronize_active_iff h,
    fun id m ↦ get?_synchronize_of_not_offered h,
    fun id m ↦ get?_synchronize_of_other_space h hforeign, get?_synchronize_synchronize h, ?_⟩
  have hcount := congrArg List.length (stale_synchronize h space methods)
  exact congrArg (SyncReport.mk (offered space methods).length) hcount

/-- Credit cards, offered twice, and an invoice that is not active. -/
def cardOffers : List PaymentMethod :=
  [⟨10, 1, "Card", .active, 1⟩, ⟨11, 1, "Invoice", .inactive, 2⟩,
    ⟨10, 1, "Credit card", .active, 3⟩]

/-- A card that was deactivated, an active voucher, and the voucher of another space. -/
def cardAndVouchers : MethodStore :=
  [⟨idFor 1 10, 10, 1, "Card", 1, false⟩, ⟨idFor 1 99, 99, 1, "Voucher", 5, true⟩,
    ⟨idFor 2 99, 99, 2, "Voucher", 5, true⟩].foldl store .empty

theorem synchronize_converges_cardAndVouchers :
    (cardAndVouchers.synchronize 1 cardOffers).2.get? (idFor 1 10) =
        some ⟨idFor 1 10, 10, 1, "Credit card", 3, true⟩ ∧
      (cardAndVouchers.synchronize 1 cardOffers).2.get? (idFor 1 99) =
        some ⟨idFor 1 99, 99, 1, "Voucher", 5, false⟩ ∧
      (cardAndVouchers.synchronize 1 cardOffers).2.get? (idFor 2 99) =
        some ⟨idFor 2 99, 99, 2, "Voucher", 5, true⟩ ∧
      ((cardAndVouchers.synchronize 1 cardOffers).2.synchronize 1 cardOffers).1 = ⟨2, 0⟩ := by
  have hkeyed : cardAndVouchers.KeyedBy StoredMethod.id :=
    keyedBy_foldl_store Table.keyedBy_empty _
  have hforeign : ∀ c ∈ cardOffers, c.state = .active →
      ∀ m, cardAndVouchers.get? (idFor 1 c.id) = some m → m.space = 1 := by
    have hcard : cardAndVouchers.get? (idFor 1 10) =
        some ⟨idFor 1 10, 10, 1, "Card", 1, false⟩ := by decide +kernel
    intro c hc hactive m hm
    simp only [cardOffers, List.mem_cons, List.not_mem_nil, or_false] at hc
    rcases hc with rfl | rfl | rfl
    · rw [← Option.some.inj (hcard.symm.trans hm)]
    · cases hactive
    · rw [← Option.some.inj (hcard.symm.trans hm)]
  obtain ⟨hactive, hretired, hother, -, hreport⟩ := synchronize_converges hkeyed hforeign
  refine ⟨((hactive _ _).mpr ⟨⟨10, 1, "Credit card", .active, 3⟩, ?_, rfl⟩).1,
    hretired _ ⟨idFor 1 99, 99, 1, "Voucher", 5, true⟩ ?_ rfl ?_,
    (hother _ _ (by decide)).mpr ?_, hreport⟩ <;> decide +kernel

end MethodStore
end ShopPayments
