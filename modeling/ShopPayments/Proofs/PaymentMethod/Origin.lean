import Mathlib.Data.List.Induction
import ShopPayments.Checkout
import ShopPayments.Proofs.Outcome
import ShopPayments.Proofs.Payload.Validity
import ShopPayments.Proofs.PaymentMethod.Synchronization
import ShopPayments.Proofs.Text

/-!
# Where an offered payment method comes from

A store that is only filled by synchronising holds as active what each space offered when it was
synchronised last, under the ids of that space.  A checkout looks its payment method up by the id
alone, so it is offered a method of the space that this id was made for.  This is the space of its
sales channel exactly if the id is one of that space.
-/

namespace ShopPayments

/-! ## Ids of the shop -/

namespace StoredMethod

/-- The text whose digest is the id in the shop of a payment method of a space. -/
def idText (space method : UInt64) : String :=
  toString space.toNat ++ "_" ++ toString method.toNat

theorem underscore_notMem_toDigits (n : ℕ) : '_' ∉ Nat.toDigits 10 n := by
  intro h
  exact absurd (Nat.isDigit_of_mem_toDigits (by decide) (by decide) h) (by decide)

theorem eq_of_toDigits_eq {a b : UInt64}
    (h : Nat.toDigits 10 a.toNat = Nat.toDigits 10 b.toNat) : a = b := by
  have hvalue := congrArg (Nat.ofDigitChars 10 · 0) h
  simp only [Nat.ofDigitChars_ten_toDigits] at hvalue
  exact UInt64.toNat.inj hvalue

theorem idText_inj {space space' method method' : UInt64}
    (h : idText space method = idText space' method') : space = space' ∧ method = method' := by
  have hchars := congrArg String.toList h
  simp only [idText, String.toList_append, Nat.toString_eq_repr, Nat.toList_repr,
    List.append_assoc] at hchars
  obtain ⟨hspace, hmethod⟩ := Text.append_cons_inj (underscore_notMem_toDigits _)
    (underscore_notMem_toDigits _) hchars
  exact ⟨eq_of_toDigits_eq hspace, eq_of_toDigits_eq hmethod⟩

end StoredMethod

/-! ## Stores filled by synchronising -/

namespace MethodStore

open StoredMethod

variable {runs : List (UInt64 × List PaymentMethod)} {space : UInt64}

/-- The store after spaces were synchronised one after another, each with what it offered then. -/
def afterRuns (runs : List (UInt64 × List PaymentMethod)) : MethodStore :=
  runs.foldl (fun s run ↦ (s.synchronize run.1 run.2).2) .empty

/-- The payment methods of a space when it was synchronised last. -/
def lastRun (runs : List (UInt64 × List PaymentMethod)) (space : UInt64) : List PaymentMethod :=
  ((runs.filter (·.1 = space)).getLast?.map (·.2)).getD []

theorem afterRuns_concat (runs : List (UInt64 × List PaymentMethod)) (space : UInt64)
    (methods : List PaymentMethod) :
    afterRuns (runs ++ [(space, methods)]) = ((afterRuns runs).synchronize space methods).2 :=
  List.foldl_concat ..

theorem lastRun_concat_self (runs : List (UInt64 × List PaymentMethod)) (space : UInt64)
    (methods : List PaymentMethod) : lastRun (runs ++ [(space, methods)]) space = methods := by
  simp [lastRun]

theorem lastRun_concat_of_ne {other : UInt64} (h : other ≠ space) (methods : List PaymentMethod) :
    lastRun (runs ++ [(other, methods)]) space = lastRun runs space := by
  simp [lastRun, h]

theorem keyedBy_afterRuns (runs : List (UInt64 × List PaymentMethod)) :
    (afterRuns runs).KeyedBy StoredMethod.id := by
  induction runs using List.reverseRecOn with
  | nil => exact Table.keyedBy_empty
  | append_singleton runs run ih =>
    rw [afterRuns_concat]
    exact keyedBy_synchronize ih run.1 run.2

/-- An active method is the last offer of its space under its id. -/
theorem lastOffer_of_active {id : String} {m : StoredMethod}
    (h : (afterRuns runs).get? id = some m) (hactive : m.active = true) :
    ∃ offer, lastOffer m.space (lastRun runs m.space) id = some offer ∧
      m = ofMethod m.space offer := by
  induction runs using List.reverseRecOn with
  | nil => cases h
  | append_singleton runs run ih =>
    obtain ⟨space, methods⟩ := run
    rw [afterRuns_concat] at h
    by_cases hspace : m.space = space
    · subst hspace
      rw [lastRun_concat_self]
      exact (get?_synchronize_active_iff (keyedBy_afterRuns runs)).mp ⟨h, rfl, hactive⟩
    · -- The run of another space has neither offered nor deactivated the method.
      rw [lastRun_concat_of_ne (Ne.symm hspace)]
      apply ih
      rw [get?_synchronize (keyedBy_afterRuns runs), Option.or_eq_some_iff] at h
      rcases h with hoffer | ⟨-, hkept⟩
      · obtain ⟨offer, -, rfl⟩ := Option.map_eq_some_iff.mp hoffer
        exact absurd rfl hspace
      · obtain ⟨before, hbefore, rfl⟩ := Option.map_eq_some_iff.mp hkept
        rw [space_retireFrom] at hspace
        rw [hbefore, retireFrom_of_ne hspace]

theorem active_eq_ok {s : MethodStore} {id : String} {m : StoredMethod} :
    s.active id = .ok m ↔ s.get? id = some m ∧ m.active = true := by
  rw [active, ← Option.filter_eq_some_iff]
  cases (s.get? id).filter (·.active) with
  | none => simp
  | some found => simp

end MethodStore

/-! ## Checkouts -/

namespace Checkout

open StoredMethod MethodStore

variable {c : Checkout} {file : SettingsFile}

theorem prepare_eq_ok {store : MethodStore} {payload : Payload} :
    c.prepare file store = .ok payload ↔
      ∃ settings, file.resolve (some c.context.salesChannel) = .ok settings ∧
        ∃ m, (store.get? c.context.paymentMethod = some m ∧ m.active = true) ∧
          (⟨c.order, c.context, settings, file.labels⟩ : Sale).payload c.customer c.pending
            m.method = .ok payload := by
  simp only [prepare, bind_eq_ok, active_eq_ok]

theorem allowedMethods_of_payload {s : Sale} {customer : Customer} {pending : PendingTransaction}
    {method : UInt64} {payload : Payload} (h : s.payload customer pending method = .ok payload) :
    payload.allowedMethods = [method] := by
  simp only [Sale.payload, bind_eq_ok, ensureValid_eq_ok] at h
  obtain ⟨_, -, _, -, _, -, -, rfl⟩ := h
  rfl

/-- Nothing in a payload depends on the id of the payment method in the shop. -/
theorem payload_paymentMethod (s : Sale) (paymentMethod : String) :
    ({ s with context := { s.context with paymentMethod } } : Sale).payload = s.payload := rfl

/-- **A checkout is offered what the space that its payment method id was made for offered as active
when it was synchronised last. That is the space of its sales channel if the id is one of that
space (and no two texts have one digest), and another space if it is not.** -/
theorem allowedMethods_prepare {runs : List (UInt64 × List PaymentMethod)} {payload : Payload}
    (h : c.prepare file (afterRuns runs) = .ok payload) :
    ∃ settings space, file.resolve (some c.context.salesChannel) = .ok settings ∧
      ∃ offer ∈ lastRun runs space, offer.state = .active ∧ payload.allowedMethods = [offer.id] ∧
        idFor space offer.id = c.context.paymentMethod ∧
        ((∃ method, idFor settings.spaceId method = c.context.paymentMethod) ↔
          space = settings.spaceId ∨ ∃ method, idText settings.spaceId method ≠
            idText space offer.id ∧ idFor settings.spaceId method = idFor space offer.id) := by
  obtain ⟨settings, hsettings, m, ⟨hm, hactive⟩, hpayload⟩ := prepare_eq_ok.mp h
  obtain ⟨offer, hoffer, hstored⟩ := lastOffer_of_active hm hactive
  obtain ⟨hmem, hstate, hid⟩ := lastOffer_eq_some hoffer
  have hmethod : m.method = offer.id := by rw [hstored, ofMethod]
  refine ⟨settings, m.space, hsettings, offer, hmem, hstate, ?_, hid, ?_⟩
  · rw [allowedMethods_of_payload hpayload, hmethod]
  · constructor
    · rintro ⟨method, hown⟩
      by_cases htext : idText settings.spaceId method = idText m.space offer.id
      · exact .inl (idText_inj htext).1.symm
      · exact .inr ⟨method, htext, hown.trans hid.symm⟩
    · rintro (hspace | ⟨method, -, hcollision⟩)
      · exact ⟨offer.id, hspace ▸ hid⟩
      · exact ⟨method, hcollision.trans hid⟩

/-- Space 1 offers a card and space 2 an invoice. -/
def cardAndInvoice : List (UInt64 × List PaymentMethod) :=
  [(1, [⟨10, 1, "Card", .active, 1⟩]), (2, [⟨20, 2, "Invoice", .active, 1⟩])]

/-- A hat for 20, sold in space 1. -/
def hatSale : Sale :=
  Sale.shopSale true
    (Sale.shopOrder [Sale.shopItem "hat" .product (.ofUInt32 20) []] (.ofUInt32 0) []
      (.ofUInt32 20))

/-- Every sales channel uses space 1. -/
def firstSpaceOnly : SettingsFile :=
  { SettingsFile.unset with
    default := { SettingsValues.unset with
      spaceId := some 1
      userId := some 7
      applicationKey := some "key"
      storefrontUrl := some "https://shop.example" } }

/-- A guest pays the hat by the invoice of space 2. -/
def hatByInvoice : Checkout where
  order := hatSale.order
  customer := Sale.guest
  context := { hatSale.context with paymentMethod := idFor 2 20 }
  pending := ⟨5, 2, "https://shop.example/finish"⟩

theorem exists_payload_hatSale (method : UInt64) :
    ∃ payload, hatSale.payload Sale.guest hatByInvoice.pending method = .ok payload := by
  obtain ⟨items, hitems⟩ : ∃ items, hatSale.items = .ok items := by
    have hbuilt : hatSale.builtItems = .ok [_] := Sale.builtItems_of_product rfl rfl rfl
    exact ⟨_, Sale.items_eq_ok.mpr ⟨_, [], hbuilt, rfl, rfl⟩⟩
  apply Exists.intro
  rw [Sale.payload, hitems, ok_bind]
  apply ensureValid_of_isValid
  simp only [isValid_iff, Validated.violations, List.append_eq_nil_iff]
  and_intros <;> rfl

theorem allowedMethods_prepare_hatByInvoice :
    ∃ payload settings space, hatByInvoice.prepare firstSpaceOnly (afterRuns cardAndInvoice) =
        .ok payload ∧
      firstSpaceOnly.resolve (some hatByInvoice.context.salesChannel) = .ok settings ∧
      (∃ offer ∈ lastRun cardAndInvoice space, payload.allowedMethods = [offer.id]) ∧
      ∀ own ∈ lastRun cardAndInvoice settings.spaceId, payload.allowedMethods ≠ [own.id] := by
  have hstored : (afterRuns cardAndInvoice).get? (idFor 2 20) =
      some ⟨idFor 2 20, 20, 2, "Invoice", 1, true⟩ := by decide +kernel
  have hsettings : firstSpaceOnly.resolve (some hatByInvoice.context.salesChannel) =
      .ok hatSale.settings := rfl
  obtain ⟨payload, hpayload⟩ := exists_payload_hatSale 20
  have hprepare : hatByInvoice.prepare firstSpaceOnly (afterRuns cardAndInvoice) = .ok payload := by
    refine prepare_eq_ok.mpr ⟨_, hsettings, _, ⟨hstored, rfl⟩, ?_⟩
    exact (congrFun₃ (payload_paymentMethod hatSale (idFor 2 20)) _ _ _).trans hpayload
  obtain ⟨settings, space, hresolved, offer, hoffer, -, hallowed, -⟩ :=
    allowedMethods_prepare hprepare
  obtain rfl := Except.ok.inj (hsettings.symm.trans hresolved)
  refine ⟨payload, _, space, hprepare, hsettings, ⟨offer, hoffer, hallowed⟩, ?_⟩
  rw [allowedMethods_of_payload hpayload]
  decide +kernel

end Checkout
end ShopPayments
