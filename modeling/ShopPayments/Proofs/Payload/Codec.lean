import ShopPayments.Payload.Codec
import ShopPayments.Proofs.CalendarDate
import ShopPayments.Proofs.Json.Shape

/-!
# Payloads arrive

What a payload leaves out is what its shape fills in again: the missing value of an optional field
and the empty one of a list.
-/

namespace ShopPayments

open Shape (Fills)

variable {α : Type}

/-- A field that is left out when it has no value. -/
theorem Shape.Fills.ifSome [Encode α] [Decode α] {c : Carrier} {levels : ℕ} {name : String}
    {o : Option α} (h : Json.Arrives c levels (encode o) o) :
    Fills c levels (Shape.defaulted name none) [Shape.slotUnless o.isNone name (encode o)] o :=
  .defaultedUnless h Option.isNone_iff_eq_none.mp

/-! ## Line items -/

instance : Plain LineItemType where
  levels := 0
  plain t := by cases t <;> exact arrives_name rfl rfl

instance : Portable LineItemTax where
  Legible c t := Legible c t.rate
  mapDecimals f t := { t with rate := f t.rate }
  mapDecimals_id _ := rfl
  levels := _
  arrives {_ t} h := (Fills.required (arrives h)).map LineItemTax.mk
    |>.seq (.required (plain t.title)) |>.arrives rfl rfl (by decide)

instance : Plain LineItemAttribute where
  levels := _
  plain a := (Fills.required (plain a.label)).map LineItemAttribute.mk
    |>.seq (.required (plain a.value)) |>.arrives rfl rfl (by decide)

instance : Portable LineItem where
  Legible c i := Legible c i.amount ∧ Legible c i.taxes
  mapDecimals f i := { i with amount := f i.amount, taxes := mapDecimals f i.taxes }
  mapDecimals_id i := by simp [mapDecimals_id]
  levels := _
  arrives {_ i} h := (Fills.required (arrives h.1)).map LineItem.mk
    |>.seq (.defaultedUnless (plain i.attributes) Dictionary.isEmpty_iff.mp)
    |>.seq (.required (plain i.name)) |>.seq (.required (plain i.quantity))
    |>.seq (.ifSome (plain i.shippingRequired))
    |>.seq (.ifSome (plain i.sku))
    |>.seq (.defaultedUnless (arrives h.2) mapDecimals_of_isEmpty)
    |>.seq (.required (plain i.type)) |>.seq (.required (plain i.uniqueId))
    |>.arrives rfl (congrArg Json.object (by simp [Json.member, Json.memberIfSome])) (by decide)

/-! ## Payloads -/

/-- An address arrives if the birthday is a date. -/
theorem PayloadAddress.arrives {c : Carrier} {a : PayloadAddress}
    (h : ∀ date ∈ a.birthday, date.Exists) : Json.Arrives c 1 (encode a) a :=
  (Fills.ifSome (plain a.city)).map PayloadAddress.mk
    |>.seq (.ifSome (plain a.country))
    |>.seq (.ifSome (arrives_option_self fun date hdate ↦ (h date hdate).arrives))
    |>.seq (.ifSome (plain a.email)) |>.seq (.ifSome (plain a.familyName))
    |>.seq (.ifSome (plain a.givenName)) |>.seq (.ifSome (plain a.organization))
    |>.seq (.ifSome (plain a.phone)) |>.seq (.ifSome (plain a.state))
    |>.seq (.ifSome (plain a.postcode)) |>.seq (.ifSome (plain a.salesTaxNumber))
    |>.seq (.ifSome (plain a.salutation)) |>.seq (.ifSome (plain a.street))
    |>.arrives rfl (congrArg Json.object (by simp [Json.memberIfSome])) (by decide)

instance : NotNull PayloadAddress := Shape.notNull rfl

namespace Payload

/-- The decimals of a payload read back, and its birthdays are dates. -/
structure ReadsBack (c : Carrier) (p : Payload) : Prop where
  items : Legible c p.items
  billing : ∀ a ∈ p.billing, ∀ date ∈ a.birthday, date.Exists
  shipping : ∀ a ∈ p.shipping, ∀ date ∈ a.birthday, date.Exists

/-- How many levels of containers a text leaves to a free value of a payload: it stands inside the
payload and inside its dictionary of free values. -/
def freeLevels : ℕ := Json.maxDepth - 2

/-- What a payload needs of a carrier: decimals that read back, birthdays that are dates, and free
values that survive. -/
structure Arrivable (c : Carrier) (p : Payload) : Prop extends ReadsBack c p where
  metaData : ∀ e ∈ p.metaData.entries, Json.Survives c freeLevels e.2

end Payload

instance : Portable Payload where
  Legible := Payload.Arrivable
  mapDecimals f p := { p with items := mapDecimals f p.items }
  mapDecimals_id p := by simp [mapDecimals_id]
  levels := _
  arrives {_ p} h := (Fills.required (plain p.id)).map Payload.mk
    |>.seq (.required (plain p.version))
    |>.seq (.defaultedUnless (plain p.allowedMethods) List.isEmpty_iff.mp)
    |>.seq (.ifSome (arrives_option_self fun a ha ↦ PayloadAddress.arrives (h.billing a ha)))
    |>.seq (.required (plain p.currency)) |>.seq (.ifSome (plain p.customerEmail))
    |>.seq (.ifSome (plain p.customerId)) |>.seq (.ifSome (plain p.failedUrl))
    |>.seq (.ifSome (plain p.language)) |>.seq (.required (arrives h.items))
    |>.seq (.ifSome (plain p.merchantReference))
    |>.seq (.defaulted (arrives_dictionary_self fun e he ↦ arrives_free (h.metaData e he)))
    |>.seq (.ifSome (arrives_option_self fun a ha ↦ PayloadAddress.arrives (h.shipping a ha)))
    |>.seq (.ifSome (plain p.shippingMethod)) |>.seq (.ifSome (plain p.spaceViewId))
    |>.seq (.ifSome (plain p.successUrl))
    |>.arrives rfl (congrArg Json.object (by simp [Json.member, Json.memberIfSome])) (by decide)

end ShopPayments
