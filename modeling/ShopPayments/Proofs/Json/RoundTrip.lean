import ShopPayments.Proofs.Json.Text
import ShopPayments.Proofs.Order.Codec
import ShopPayments.Proofs.Settings.Codec
import ShopPayments.Proofs.Snapshot.Codec

/-!
# What is written is read again

Snapshots, checkouts, payloads, refund requests and settings files come back from what they are
written as, be it a tree, a text without blanks or a text with a line for every element.  Their
decimals come back as equal numbers if each of them does so on its own, and nothing else changes.
The free values of a payload survive in a tree whatever they are.  In a text those survive whose
numbers are read as themselves and which leave room for the payload around them; others are lost
(`freeValues_lost`).
-/

namespace ShopPayments

section ComesBack

variable {α : Type} [Encode α] [Decode α] [Portable α]

/-- The value is read again from each text that is written for it. -/
def ReadsFromText (a : α) : Prop :=
  ∃ b, Json.parse (Json.compact (encode a)) = .ok b ∧
    Json.parse (Json.pretty (encode a)) = .ok b ∧ NumericallyEq a b

/-- What is written for the values of a type is read as the same values, as far as their decimals
read back. -/
structure ComesBack (α : Type) [Encode α] [Decode α] [Portable α] : Prop where
  tree : ∀ a : α, Legible .tree a → ∃ b, decode (Json.widen (encode a)) = .ok b ∧ NumericallyEq a b
  text : ∀ a : α, Legible .text a → ReadsFromText a

theorem numericallyEq_reread (c : Carrier) (a : α) :
    NumericallyEq a (mapDecimals (Decimal.reread c) a) :=
  ⟨Decimal.reread c, Decimal.toRat_reread c, rfl⟩

theorem comesBack_of_portable (hlevels : Portable.levels α ≤ Json.maxDepth) : ComesBack α where
  tree a h := by
    have ha := (arrives h).decoded
    rw [Json.carry_tree] at ha
    exact ⟨_, ha, numericallyEq_reread .tree a⟩
  text a h := by
    have ha := arrives h
    exact ⟨_, ha.parse_compact hlevels, ha.parse_pretty hlevels, numericallyEq_reread .text a⟩

end ComesBack

/-- A snapshot is loaded from the text of its file. -/
theorem Snapshot.load_fileText {s : Snapshot} (h : Legible .text s) :
    ∃ s', load (some s.fileText) = .ok s' ∧ NumericallyEq s s' := by
  have hbreak : Json.Blank ['\n'] := by
    intro c hc
    rw [List.mem_singleton.mp hc]
    rfl
  have htext : s.fileText.toList = Json.render .pretty 0 (encode s) ++ ['\n'] := by
    simp [fileText, Json.pretty]
  have hparse : Json.parse s.fileText = .ok (mapDecimals (Decimal.reread .text) s) :=
    (arrives h).parse Json.spaces_pretty (by decide) hbreak htext
  refine ⟨_, ?_, numericallyEq_reread .text s⟩
  rw [load, hparse]

/-- A sandbox is reloaded as the one that is restored from what was captured of it. -/
theorem Sandbox.exists_reload {s : Sandbox} (h : Legible .text s.capture) :
    ∃ snapshot : Snapshot, s.reload = .ok snapshot.restore ∧ NumericallyEq s.capture snapshot := by
  obtain ⟨snapshot, hload, heq⟩ := Snapshot.load_fileText h
  refine ⟨snapshot, ?_, heq⟩
  rw [reload, hload]
  rfl

/-- In a tree the free values of a payload need nothing. -/
theorem Payload.ReadsBack.legible_tree {p : Payload} (h : p.ReadsBack .tree) : Legible .tree p where
  toReadsBack := h
  metaData e _ := ⟨Json.carry_tree e.2, nofun⟩

/-- **What is written is read again**, if the free values of a payload survive in a text. -/
theorem comesBack :
    (ComesBack Snapshot ∧ ComesBack Checkout ∧ ComesBack RefundRequest ∧ ComesBack SettingsFile) ∧
    (∀ p : Payload, p.ReadsBack .tree →
      ∃ q, decode (Json.widen (encode p)) = .ok q ∧ NumericallyEq p q) ∧
    ∀ p : Payload, p.ReadsBack .text →
      (∀ e ∈ p.metaData.entries, Json.Survives .text Payload.freeLevels e.2) → ReadsFromText p := by
  have hpayload : ComesBack Payload := comesBack_of_portable (by decide)
  refine ⟨⟨comesBack_of_portable (by decide), comesBack_of_portable (by decide),
    comesBack_of_portable (by decide), comesBack_of_portable (by decide)⟩, ?_, ?_⟩
  · intro p h
    exact hpayload.tree p h.legible_tree
  · intro p h hfree
    exact hpayload.text p ⟨h, hfree⟩

/-! ## A sale written down -/

namespace HatSale

/-- The price of 44.90, of which 44.9 is read. -/
def price : Decimal := ⟨false, 4490, 2, by decide, Decimal.two_le_maxScale⟩

/-- The tax rate in per cent, and also the amount that is given back. -/
def rate : Decimal := ⟨false, 81, 1, by decide, Decimal.one_le_maxScale⟩

theorem readsBack_price : price.ReadsBack .text :=
  ⟨⟨false, 449, 1, by decide, by decide⟩, by decide +kernel, by decide +kernel⟩

theorem readsBack_rate : rate.ReadsBack .text := ⟨rate, by decide +kernel, rfl⟩

theorem readsBack_zero : (0 : Decimal).ReadsBack .text := ⟨0, by decide +kernel, rfl⟩

/-- One hat was paid and a part of it refunded. -/
def snapshot : Snapshot where
  transactions := [⟨1, 7, .fulfill, some "otx-1", "EUR", price, price, rate,
    [⟨"hat", "Hat", none, 1, price, price, .product⟩], true⟩]
  refunds := [⟨1, 7, 1, .successful, rate, "refund_1", [⟨"hat", 0, rate⟩]⟩]
  methods := [⟨20, 7, "Invoice", .active, -1⟩]
  stored := []
  sequence := 1

/-- An address of which nothing is known. -/
def nowhere : Address :=
  ⟨none, none, none, none, none, none, none, none, none, none, none, none, none⟩

/-- The order of the hat by a customer with a birthday. -/
def checkout : Checkout where
  order := ⟨"order-1", "10001", "EUR", .gross, price, 0, .zero, [], none, []⟩
  customer := ⟨none, true, "jane@example.com", none, none, none, some ⟨1990, 2, 28⟩, [],
    nowhere, nowhere, none, none⟩
  context := ⟨"shop", "invoice", none, some "en-GB"⟩
  pending := ⟨1, 1, "https://shop.example/finish"⟩

/-- The payload for the hat. -/
def payload : Payload where
  id := 1
  version := 1
  allowedMethods := [20]
  billing := some ⟨none, some "CH", some ⟨1990, 2, 28⟩, none, none, none, none, none, none, none,
    none, none, none⟩
  currency := "EUR"
  customerEmail := some "jane@example.com"
  customerId := none
  failedUrl := none
  language := some "en-GB"
  items := [⟨price, .empty, "Hat", 1, some true, none, [⟨rate, "VAT 8.1%"⟩], .product, "hat"⟩]
  merchantReference := some "10001"
  metaData := .ofList [("taxNumber", .null), ("customerName", .string "Jane Doe")]
  shipping := none
  shippingMethod := none
  spaceViewId := none
  successUrl := none

/-- The part of the hat that is given back. -/
def request : RefundRequest :=
  ⟨some rate, "refund_1", none, [⟨"hat", 0, rate⟩], 1, .merchantOnline⟩

/-- The settings of the shop. -/
def settings : SettingsFile := { SettingsFile.unset with
  default := { SettingsValues.unset with spaceId := some 7, defaultTaxRate := some rate } }

end HatSale

open HatSale in
theorem comesBack_hatSale : ReadsFromText snapshot ∧ ReadsFromText checkout ∧
    ReadsFromText request ∧ ReadsFromText settings ∧ ReadsFromText payload := by
  have hdate : CalendarDate.Exists ⟨1990, 2, 28⟩ := rfl
  have hreductions : Legible .text [(⟨"hat", 0, rate⟩ : Reduction)] :=
    List.forall_mem_singleton.mpr readsBack_rate
  have hsnapshot : Legible .text snapshot :=
    ⟨List.forall_mem_singleton.mpr ⟨readsBack_price, readsBack_price, readsBack_rate,
      List.forall_mem_singleton.mpr ⟨readsBack_price, readsBack_price⟩⟩,
      List.forall_mem_singleton.mpr ⟨readsBack_rate, hreductions⟩⟩
  have hcheckout : Legible .text checkout := by
    refine ⟨⟨readsBack_price, readsBack_zero, ⟨readsBack_zero, readsBack_zero,
      List.forall_mem_nil _, List.forall_mem_nil _⟩, List.forall_mem_nil _⟩, ?_⟩
    rintro _ ⟨⟩
    exact hdate
  have hpayload : payload.ReadsBack .text := by
    constructor
    · exact List.forall_mem_singleton.mpr
        ⟨readsBack_price, List.forall_mem_singleton.mpr readsBack_rate⟩
    · rintro _ ⟨⟩ _ ⟨⟩
      exact hdate
    · rintro _ ⟨⟩
  have hfree : ∀ e ∈ payload.metaData.entries, Json.Survives .text Payload.freeLevels e.2 := by
    have hentries : payload.metaData.entries =
        [("customerName", .string "Jane Doe"), ("taxNumber", .null)] := rfl
    rw [hentries, List.forall_mem_cons, List.forall_mem_singleton]
    exact ⟨⟨rfl, fun _ ↦ Nat.zero_le _⟩, ⟨rfl, fun _ ↦ Nat.zero_le _⟩⟩
  have hrequest : Legible .text request := by
    refine ⟨?_, hreductions⟩
    rintro _ ⟨⟩
    exact readsBack_rate
  have hsettings : Legible .text settings := by
    refine ⟨?_, List.forall_mem_nil _⟩
    rintro _ ⟨⟩
    exact readsBack_rate
  obtain ⟨⟨hs, hc, hr, hfile⟩, -, hp⟩ := comesBack
  exact ⟨hs.text _ hsnapshot, hc.text _ hcheckout, hr.text _ hrequest, hfile.text _ hsettings,
    hp _ hpayload hfree⟩

/-! ## Free values that a text loses -/

namespace Payload

/-- A payload without items that carries one free value. -/
def carrying (free : Json Empty) : Payload :=
  { HatSale.payload with items := [], billing := none, metaData := .ofList [("note", free)] }

theorem readsBack_carrying (free : Json Empty) : (carrying free).ReadsBack .text where
  items := List.forall_mem_nil _
  billing := by rintro _ ⟨⟩
  shipping := by rintro _ ⟨⟩

/-- Decimals make no difference to the free values. -/
theorem metaData_eq_of_numericallyEq {p q : Payload} (h : NumericallyEq p q) :
    q.metaData = p.metaData := by
  obtain ⟨f, -, rfl⟩ := h
  rfl

end Payload

/-- The numbers with a fraction among free values. -/
def fractions (free : Dictionary (Json Empty)) : List Binary64 :=
  free.entries.filterMap fun e ↦
    match e.2 with
    | .real _ x => some x
    | _ => none

/-- So many arrays around an empty one. -/
def Json.boxes : ℕ → Json Empty
  | 0 => .array []
  | n + 1 => .array [boxes n]

/-- The number 31.245270191439438. -/
def unsteady : Binary64 := ⟨8794761699453570, -48⟩

/-- The number next to it, which is read for its digits. -/
def afterUnsteady : Binary64 := ⟨8794761699453571, -48⟩

section Lost

open Payload

theorem parse_unsteady :
    ∃ q : Payload, Json.parse (Json.compact (encode (carrying (.real false unsteady)))) = .ok q ∧
      fractions q.metaData = [afterUnsteady] := by
  have hread : (fun q : Payload ↦ fractions q.metaData) <$> decode (Json.prune Json.maxDepth
      (Json.carry .text (encode (carrying (.real false unsteady))))) = .ok [afterUnsteady] := by
    decide +kernel
  rw [Json.parse_compact (by decide +kernel)]
  generalize decode (α := Payload) (Json.prune Json.maxDepth
    (Json.carry .text (encode (carrying (.real false unsteady))))) = parsed at hread ⊢
  cases parsed with
  | error fault => cases hread
  | ok q => exact ⟨q, rfl, Except.ok.inj hread⟩

/-- One level more than a free value may have. -/
theorem parse_boxes :
    Json.parse (Json.compact (encode (carrying (Json.boxes freeLevels)))) =
      (.error .notJson : Except Misread Payload) := by
  have hread : Shape.check (decode (α := Payload)) (Json.prune Json.maxDepth
      (Json.carry .text (encode (carrying (Json.boxes freeLevels))))) = .error .notJson := by
    decide +kernel
  rw [Json.parse_compact (by decide +kernel)]
  rw [Shape.check] at hread
  generalize decode (α := Payload) (Json.prune Json.maxDepth
    (Json.carry .text (encode (carrying (Json.boxes freeLevels))))) = parsed at hread ⊢
  cases parsed with
  | error fault => exact congrArg Except.error (Except.error.inj hread)
  | ok q => cases hread

/-- Of two payloads without a decimal, a number of the one is read as the number next to it, and the
other one is not read at all. -/
theorem freeValues_lost :
    ((carrying (.real false unsteady)).ReadsBack .text ∧
      ∃ q, Json.parse (Json.compact (encode (carrying (.real false unsteady)))) = .ok q ∧
        ¬ NumericallyEq (carrying (.real false unsteady)) q) ∧
    (carrying (Json.boxes freeLevels)).ReadsBack .text ∧
      Json.parse (Json.compact (encode (carrying (Json.boxes freeLevels)))) =
        (.error .notJson : Except Misread Payload) := by
  obtain ⟨q, hq, hfractions⟩ := parse_unsteady
  refine ⟨⟨readsBack_carrying _, q, hq, ?_⟩, readsBack_carrying _, parse_boxes⟩
  intro heq
  rw [metaData_eq_of_numericallyEq heq] at hfractions
  exact absurd hfractions (by decide)

end Lost

end ShopPayments
