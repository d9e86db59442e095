import ShopPayments.Proofs.Http.Endpoints
import ShopPayments.Proofs.Refund.Units

/-!
# Requests in flight

A request for units of a line item makes three calls: it reads the transaction, it reads the
refunds, and if the units are left it hands a refund to the gateway.  Between its calls those of
other requests take their turn.  Uninterrupted the calls are the handler (`run_uninterrupted`), but
what was left at the second call need not be left at the third one, where only money is looked at
again: more units than the quantity of a line item are given back exactly if a request books units
that others took in between.
-/

namespace ShopPayments
namespace Http

/-! ## The calls of a request -/

/-- Where a request for units stands between its calls. -/
inductive UnitsStage where
  | arrived
  | loaded (space : UInt64) (t : Transaction)
  | decided (space : UInt64) (t : Transaction) (seen : List Refund) (request : RefundRequest)
  | answered (result : Except Rejection Unit)

/-- A request for units in flight. -/
structure UnitsCall where
  body : UnitsBody
  token : String
  stage : UnitsStage

/-- The next call of a request: its stage and the gateway afterwards. -/
def UnitsCall.advance (c : UnitsCall) (file : SettingsFile) (g : Gateway) :
    UnitsStage × Gateway :=
  match c.stage with
  | .arrived =>
    if c.body.quantity ≤ 0 then (.answered (.error (.key "refundQuantityZero")), g)
    else
      match load file g c.body.channel c.body.transaction with
      | .ok (space, t) => (.loaded space t, g)
      | .error cause => (.answered (.error (.failure cause)), g)
  | .loaded space t =>
    match c.body.decide t (g.refundsOf space t.id) c.token with
    | .ok request => (.decided space t (g.refundsOf space t.id) request, g)
    | .error rejection => (.answered (.error rejection), g)
  | .decided space _ _ request =>
    match g.createRefund space request with
    | .ok (_, after) => (.answered (.ok ()), after)
    | .error cause => (.answered (.error (.failure cause)), g)
  | .answered result => (.answered result, g)

/-- The gateway and the requests in flight. -/
structure Traffic where
  gateway : Gateway
  calls : List UnitsCall

namespace Traffic

/-- A request takes its turn. -/
def step (file : SettingsFile) (s : Traffic) (i : ℕ) : Traffic :=
  match s.calls[i]? with
  | none => s
  | some c =>
    ⟨(c.advance file s.gateway).2,
      s.calls.set i { c with stage := (c.advance file s.gateway).1 }⟩

/-- Requests take their turns. -/
def run (file : SettingsFile) (s : Traffic) (schedule : List ℕ) : Traffic :=
  schedule.foldl (step file) s

variable {file : SettingsFile} {s : Traffic} {i : ℕ} {c : UnitsCall}

theorem step_of_some (h : s.calls[i]? = some c) :
    s.step file i = ⟨(c.advance file s.gateway).2,
      s.calls.set i { c with stage := (c.advance file s.gateway).1 }⟩ := by
  simp [step, h]

theorem step_of_none (h : s.calls[i]? = none) : s.step file i = s := by
  simp [step, h]

theorem gateway_step (h : s.calls[i]? = some c) :
    (s.step file i).gateway = (c.advance file s.gateway).2 := by
  rw [step_of_some h]

theorem calls_step_self (file : SettingsFile) (h : s.calls[i]? = some c) :
    (s.step file i).calls[i]? = some { c with stage := (c.advance file s.gateway).1 } := by
  obtain ⟨hlength, -⟩ := List.getElem?_eq_some_iff.mp h
  rw [step_of_some h]
  exact List.getElem?_set_self hlength

/-- The calls of a request in a row are its handler; one that fails leaves the gateway alone. -/
theorem run_uninterrupted (h : s.calls[i]? = some c) (hstage : c.stage = .arrived) :
    (s.run file [i, i, i]).gateway =
      match c.body.run file s.gateway c.token with
      | .ok after => after
      | .error _ => s.gateway := by
  have hfirst := calls_step_self file h
  have hsecond := calls_step_self file hfirst
  change ((((s.step file i).step file i).step file i)).gateway = _
  rw [gateway_step hsecond, gateway_step hfirst, gateway_step h]
  by_cases hquantity : c.body.quantity ≤ 0
  · simp [UnitsCall.advance, UnitsBody.run, hstage, hquantity]
  · cases hload : load file s.gateway c.body.channel c.body.transaction with
    | error cause => simp [UnitsCall.advance, UnitsBody.run, hstage, hquantity, hload]
    | ok loaded =>
      obtain ⟨space, t⟩ := loaded
      cases hdecide : c.body.decide t (s.gateway.refundsOf space t.id) c.token with
      | error rejection =>
        simp [UnitsCall.advance, UnitsBody.run, hstage, hquantity, hload, hdecide]
      | ok request =>
        cases hcreate : s.gateway.createRefund space request with
        | error cause =>
          simp [UnitsCall.advance, UnitsBody.run, hstage, hquantity, hload, hdecide, hcreate]
        | ok created =>
          simp [UnitsCall.advance, UnitsBody.run, hstage, hquantity, hload, hdecide, hcreate,
            pure_eq]

end Traffic

/-! ## What a request knows -/

/-- A transaction as it was read is stored, up to what was refunded since. -/
def Knows (g : Gateway) (space : UInt64) (t : Transaction) : Prop :=
  ∃ now, g.transaction? space t.id = some now ∧ now = { t with refunded := now.refunded }

/-- What a request has read is still so, up to what others refunded since. -/
def UnitsCall.Tracks (c : UnitsCall) (g : Gateway) : Prop :=
  match c.stage with
  | .loaded space t => ¬ c.body.quantity ≤ 0 ∧ Knows g space t
  | .decided space t seen request =>
    Endpoint.units.Asks t seen request ∧ Knows g space t ∧
      ∃ between, g.refundsOf space t.id = seen ++ between
  | _ => True

theorem Knows.of_extends {g later : Gateway} {space : UInt64} {t : Transaction}
    (h : Knows g space t) (hext : g.Extends later) : Knows later space t := by
  obtain ⟨now, hnow, hsame⟩ := h
  obtain ⟨next, hnext, hsame'⟩ := hext.exists_later hnow
  refine ⟨next, hnext, ?_⟩
  rw [hsame', hsame]

theorem UnitsCall.Tracks.of_extends {c : UnitsCall} {g later : Gateway} (h : c.Tracks g)
    (hext : g.Extends later) : c.Tracks later := by
  unfold Tracks at h ⊢
  split at h
  next space t hstage => exact ⟨h.1, h.2.of_extends hext⟩
  next space t seen request hstage =>
    obtain ⟨hasks, hknows, between, hbetween⟩ := h
    obtain ⟨more, hmore⟩ := hext.refunds space t.id
    refine ⟨hasks, hknows.of_extends hext, between ++ more, ?_⟩
    rw [hmore, hbetween, List.append_assoc]
  next => trivial

/-- The next call of a request leaves the gateway alone, or it is the one that books. -/
theorem UnitsCall.advance_cases (c : UnitsCall) (file : SettingsFile) (g : Gateway) :
    (c.advance file g).2 = g ∨
      ∃ space t seen request refund, c.stage = .decided space t seen request ∧
        g.createRefund space request = .ok (refund, (c.advance file g).2) := by
  unfold advance
  cases hstage : c.stage with
  | arrived =>
    left
    dsimp only
    split
    · rfl
    · split <;> rfl
  | loaded space t =>
    left
    dsimp only
    split <;> rfl
  | decided space t seen request =>
    dsimp only
    cases hcreate : g.createRefund space request with
    | ok created => exact Or.inr ⟨space, t, seen, request, created.1, rfl, hcreate⟩
    | error cause => exact Or.inl rfl
  | answered result => exact Or.inl rfl

theorem UnitsCall.extends_advance (c : UnitsCall) (file : SettingsFile) (g : Gateway) :
    g.Extends (c.advance file g).2 := by
  rcases c.advance_cases file g with hsame | ⟨space, t, seen, request, refund, -, hcreate⟩
  · rw [hsame]
    exact .refl g
  · obtain ⟨t', total, hbooked⟩ := Gateway.booked_of_createRefund hcreate
    exact hbooked.extends

theorem UnitsCall.Tracks.advance {c : UnitsCall} {g : Gateway} (file : SettingsFile)
    (hkeyed : g.Keyed) (h : c.Tracks g) :
    { c with stage := (c.advance file g).1 : UnitsCall }.Tracks (c.advance file g).2 := by
  unfold Tracks at h
  unfold UnitsCall.advance
  cases hstage : c.stage with
  | arrived =>
    dsimp only
    split
    · trivial
    next hquantity =>
      split
      next space t hload =>
        obtain ⟨settings, -, -, ht⟩ := load_eq_ok.mp hload
        refine ⟨hquantity, t, ?_, rfl⟩
        rw [hkeyed.id_eq ht]
        exact ht
      next => trivial
  | loaded space t =>
    rw [hstage] at h
    dsimp only
    split
    next request hdecide =>
      exact ⟨UnitsBody.asks_of_decide h.1 hdecide, h.2, [], (List.append_nil _).symm⟩
    next => trivial
  | decided space t seen request =>
    dsimp only
    split <;> trivial
  | answered result => trivial

namespace Traffic

/-! ## Every interleaving -/

variable {file : SettingsFile} {s : Traffic} {i : ℕ} {c : UnitsCall}

/-- Transactions are stored under their keys, and what the requests have read is still so. -/
structure Sound (s : Traffic) : Prop where
  keyed : s.gateway.Keyed
  tracks : ∀ c ∈ s.calls, c.Tracks s.gateway

theorem sound_of_arrived (hkeyed : s.gateway.Keyed) (h : ∀ c ∈ s.calls, c.stage = .arrived) :
    s.Sound where
  keyed := hkeyed
  tracks := by
    intro c hc
    unfold UnitsCall.Tracks
    rw [h c hc]
    trivial

theorem extends_step (file : SettingsFile) (s : Traffic) (i : ℕ) :
    s.gateway.Extends (s.step file i).gateway := by
  cases hcall : s.calls[i]? with
  | none =>
    rw [step_of_none hcall]
    exact .refl _
  | some c =>
    rw [gateway_step hcall]
    exact c.extends_advance file s.gateway

theorem Sound.step (h : s.Sound) (file : SettingsFile) (i : ℕ) : (s.step file i).Sound where
  keyed := h.keyed.of_extends (extends_step file s i)
  tracks := by
    cases hcall : s.calls[i]? with
    | none =>
      rw [step_of_none hcall]
      exact h.tracks
    | some c =>
      have hmem : c ∈ s.calls := List.mem_of_getElem? hcall
      rw [step_of_some hcall]
      intro c' hc'
      rcases List.mem_or_eq_of_mem_set hc' with hother | rfl
      · exact (h.tracks c' hother).of_extends (c.extends_advance file s.gateway)
      · exact (h.tracks c hmem).advance file h.keyed

/-- A request books units of a line item that were left when it read the refunds and are no longer
left, since others took units in between. -/
def Overbooks (file : SettingsFile) (s : Traffic) (i : ℕ) (space id : UInt64)
    (item : TransactionItem) : Prop :=
  ∃ c t seen between request units refund,
    s.calls[i]? = some c ∧ c.stage = .decided space t seen request ∧ t.id = id ∧
      request.reductions = [⟨item.uniqueId, units, 0⟩] ∧
      s.gateway.createRefund space request = .ok (refund, (s.step file i).gateway) ∧
      s.gateway.refundsOf space id = seen ++ between ∧
      takenUnits seen item.uniqueId + units.toNat ≤ item.quantity.toNat ∧
      item.quantity.toNat <
        takenUnits seen item.uniqueId + takenUnits between item.uniqueId + units.toNat

variable {space id : UInt64} {t : Transaction} {item : TransactionItem}

theorem takenUnits_booked {g after : Gateway} {request : RefundRequest} {total : Decimal}
    {refund : Refund} {reduction : Reduction} (h : g.Booked space request t total refund after)
    (hreductions : request.reductions = [reduction]) (itemId : String) :
    takenUnits (after.refundsOf space request.transaction) itemId =
      takenUnits (g.refundsOf space request.transaction) itemId +
        if reduction.item = itemId then reduction.units.toNat else 0 := by
  rw [h.takenUnits_after, if_pos rfl, hreductions, List.filter_singleton]
  by_cases hitem : reduction.item = itemId <;> simp [hitem]

theorem Overbooks.lt_takenUnits (h : s.Overbooks file i space id item) (hsound : s.Sound) :
    item.quantity.toNat <
      takenUnits ((s.step file i).gateway.refundsOf space id) item.uniqueId := by
  obtain ⟨c, t, seen, between, request, units, refund, hcall, hstage, rfl, hreductions, hcreate,
    hrefunds, -, hlt⟩ := h
  have htracks := hsound.tracks c (List.mem_of_getElem? hcall)
  unfold UnitsCall.Tracks at htracks
  rw [hstage] at htracks
  obtain ⟨t', total, hbooked⟩ := Gateway.booked_of_createRefund hcreate
  have htaken := takenUnits_booked hbooked hreductions item.uniqueId
  rw [htracks.1.transaction_eq, if_pos rfl, hrefunds, takenUnits_append] at htaken
  rw [htaken]
  exact hlt

theorem overbooks_of_lt_takenUnits (hsound : s.Sound)
    (ht : s.gateway.transaction? space id = some t) (hitem : t.item? item.uniqueId = some item)
    (htaken : takenUnits (s.gateway.refundsOf space id) item.uniqueId ≤ item.quantity.toNat)
    (hlt : item.quantity.toNat <
      takenUnits ((s.step file i).gateway.refundsOf space id) item.uniqueId) :
    s.Overbooks file i space id item := by
  cases hcall : s.calls[i]? with
  | none =>
    rw [step_of_none hcall] at hlt
    omega
  | some c =>
    rcases c.advance_cases file s.gateway with
      hsame | ⟨space', known, seen, request, refund, hstage, hcreate⟩
    · rw [gateway_step hcall, hsame] at hlt
      omega
    · rw [← gateway_step hcall] at hcreate
      have htracks := hsound.tracks c (List.mem_of_getElem? hcall)
      unfold UnitsCall.Tracks at htracks
      rw [hstage] at htracks
      obtain ⟨hasks, ⟨now, hnow, hsame⟩, between, hbetween⟩ := htracks
      obtain ⟨t', total, hbooked⟩ := Gateway.booked_of_createRefund hcreate
      by_cases hkey : (space', request.transaction) = (space, id)
      · obtain ⟨rfl, hid⟩ := Prod.mk.inj hkey
        have hknown : known.id = id := hasks.transaction_eq.symm.trans hid
        cases hasks with
        | units other units left found positive counted fits names =>
          have hbookedUnits := takenUnits_booked hbooked names.reductions_eq item.uniqueId
          rw [hid] at hbookedUnits
          by_cases hother : other.uniqueId = item.uniqueId
          · -- The line item of the request is the one in question.
            have hnowItem : now.item? item.uniqueId = some item := by
              rw [hknown, ht] at hnow
              rw [← Option.some.inj hnow]
              exact hitem
            rw [hother, ← Transaction.item?_congr hsame, hnowItem] at found
            obtain rfl := Option.some.inj found
            rw [Transaction.item?_congr hsame] at hnowItem
            rw [if_pos rfl] at hbookedUnits
            rw [hknown] at hbetween
            rw [hbookedUnits, hbetween, takenUnits_append] at hlt
            exact ⟨c, known, seen, between, request, units, refund, hcall, hstage, hknown,
              names.reductions_eq, hcreate, hbetween,
              Transaction.takenUnits_add_le hnowItem counted fits positive, hlt⟩
          · rw [if_neg hother] at hbookedUnits
            omega
      · rw [hbooked.refundsOf_after, if_neg hkey] at hlt
        omega

theorem takenUnits_le_run (schedule : List ℕ) (s : Traffic) (space id : UInt64)
    (itemId : String) :
    takenUnits (s.gateway.refundsOf space id) itemId ≤
      takenUnits ((s.run file schedule).gateway.refundsOf space id) itemId := by
  induction schedule generalizing s with
  | nil => exact le_rfl
  | cons i rest ih =>
    obtain ⟨booked, hbooked⟩ := (extends_step file s i).refunds space id
    refine le_trans ?_ (ih (s.step file i))
    rw [hbooked, takenUnits_append]
    exact Nat.le_add_right _ _

theorem lt_takenUnits_run_iff (hsound : s.Sound) (schedule : List ℕ)
    (ht : s.gateway.transaction? space id = some t) (hitem : t.item? item.uniqueId = some item)
    (htaken : takenUnits (s.gateway.refundsOf space id) item.uniqueId ≤ item.quantity.toNat) :
    item.quantity.toNat <
        takenUnits ((s.run file schedule).gateway.refundsOf space id) item.uniqueId ↔
      ∃ before i after, schedule = before ++ i :: after ∧
        (s.run file before).Overbooks file i space id item := by
  induction schedule generalizing s t with
  | nil =>
    constructor
    · intro hlt
      exact absurd hlt (not_lt.mpr htaken)
    · rintro ⟨before, i, after, hschedule, -⟩
      simp at hschedule
  | cons i rest ih =>
    by_cases hover : s.Overbooks file i space id item
    · constructor
      · intro _
        exact ⟨[], i, rest, rfl, hover⟩
      · intro _
        exact (hover.lt_takenUnits hsound).trans_le
          (takenUnits_le_run rest (s.step file i) space id item.uniqueId)
    · have hnext : takenUnits ((s.step file i).gateway.refundsOf space id) item.uniqueId ≤
          item.quantity.toNat := by
        by_contra hlt
        exact hover (overbooks_of_lt_takenUnits hsound ht hitem htaken (not_le.mp hlt))
      obtain ⟨t', ht', hsame⟩ := (extends_step file s i).exists_later ht
      have hitem' : t'.item? item.uniqueId = some item := by
        rw [Transaction.item?_congr hsame]
        exact hitem
      have hrest := ih (hsound.step file i) ht' hitem' hnext
      constructor
      · intro hlt
        obtain ⟨before, j, after, hschedule, hbooks⟩ := hrest.mp hlt
        exact ⟨i :: before, j, after, by rw [hschedule]; rfl, hbooks⟩
      · rintro ⟨before, j, after, hschedule, hbooks⟩
        cases before with
        | nil =>
          obtain ⟨rfl, rfl⟩ := List.cons.inj hschedule
          exact absurd hbooks hover
        | cons first before =>
          obtain ⟨rfl, hschedule'⟩ := List.cons.inj hschedule
          exact hrest.mpr ⟨before, j, after, hschedule', hbooks⟩

/-- However the calls of any number of requests for units interleave, more units of a line item
than its quantity are given back exactly if at some point a request books units that others took
between its own second and third call. -/
theorem run_takenUnits (file : SettingsFile) (s : Traffic) (hkeyed : s.gateway.Keyed)
    (harrived : ∀ c ∈ s.calls, c.stage = .arrived) (schedule : List ℕ)
    (ht : s.gateway.transaction? space id = some t)
    (hdistinct : (t.items.map (·.uniqueId)).Nodup) (hitem : item ∈ t.items)
    (htaken : takenUnits (s.gateway.refundsOf space id) item.uniqueId ≤ item.quantity.toNat) :
    item.quantity.toNat <
        takenUnits ((s.run file schedule).gateway.refundsOf space id) item.uniqueId ↔
      ∃ before i after, schedule = before ++ i :: after ∧
        (s.run file before).Overbooks file i space id item :=
  lt_takenUnits_run_iff (sound_of_arrived hkeyed harrived) schedule ht
    (Transaction.item?_of_mem hdistinct hitem) htaken

/-- Two requests for the one hat, of which each looks before the other one books. -/
def twoForOneHat : Traffic where
  gateway := .holding hatAndSock
  calls := [⟨⟨none, 42, 1, "hat"⟩, "one", .arrived⟩, ⟨⟨none, 42, 1, "hat"⟩, "two", .arrived⟩]

theorem run_takenUnits_twoForOneHat :
    ∃ before i after, [0, 1, 0, 1, 0, 1] = before ++ i :: after ∧
      (twoForOneHat.run oneSpace before).Overbooks oneSpace i 1 42 hat := by
  have ht : twoForOneHat.gateway.transaction? 1 42 = some hatAndSock := rfl
  have harrived : ∀ c ∈ twoForOneHat.calls, c.stage = .arrived := by simp [twoForOneHat]
  refine (run_takenUnits oneSpace twoForOneHat (Gateway.keyed_holding hatAndSock) harrived
    [0, 1, 0, 1, 0, 1] ht (by decide) (by decide : hat ∈ hatAndSock.items) (by decide)).mp ?_
  decide +kernel

end Traffic
end Http
end ShopPayments
