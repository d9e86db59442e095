import ShopPayments.Json.Shape
import ShopPayments.Proofs.Json.Values

/-!
# Structures arrive field by field

The fields of a structure are written in the order of its shape, each under its own name, and some
of them are left out.  A list of slots says for each field what was written for it, if anything
(`Shape.Fills`); shapes fill from the slots of their parts.  If no two fields have the same name,
the checks pass the members of an object one by one and each field finds its own, so the structure
arrives (`Shape.Fills.arrives`), one level above the deepest of its fields.
-/

namespace ShopPayments

open Json (Arrives carry carryMembers depth depthMembers lookup?)

namespace Shape

variable {α β : Type} {c : Carrier} {levels : ℕ}

/-- What was written for a field, if anything. -/
abbrev Slot := String × Option (Json Empty)

/-- The members of an object: the slots that are not empty. -/
def members (slots : List Slot) : List (String × Json Empty) :=
  slots.filterMap fun slot ↦ slot.2.map (slot.1, ·)

/-- The slot of a field that is left out when the flag is set. -/
def slotUnless (omitted : Bool) (name : String) (json : Json Empty) : Slot :=
  (name, if omitted then none else some json)

@[simp]
theorem members_nil : members [] = [] := rfl

@[simp]
theorem members_cons_some (name : String) (json : Json Empty) (slots : List Slot) :
    members ((name, some json) :: slots) = (name, json) :: members slots := rfl

@[simp]
theorem members_cons_unless [Encode α] (omitted : Bool) (name : String) (a : α)
    (slots : List Slot) :
    members (slotUnless omitted name (encode a) :: slots) =
      Json.memberUnless omitted name a ++ members slots := by
  cases omitted with
  | false => rfl
  | true => rfl

theorem members_append (slots more : List Slot) :
    members (slots ++ more) = members slots ++ members more := List.filterMap_append

theorem depthMembers_append (ms more : List (String × Json Empty)) :
    depthMembers (ms ++ more) = max (depthMembers ms) (depthMembers more) := by
  induction ms with
  | nil => exact (Nat.zero_max _).symm
  | cons m ms ih => rw [List.cons_append, depthMembers, depthMembers, ih, max_assoc]

/-- A field comes through a carrier in one piece and passes its check. -/
structure Passes (c : Carrier) (field : String × (Draft → Except Misread Unit)) (slot : Slot) :
    Prop where
  name_eq : field.1 = slot.1
  whole : ∀ json ∈ slot.2, Json.isWhole (carry c json) = true
  checked : ∀ json ∈ slot.2, field.2 (carry c json) = .ok ()

/-- The slots are those of the fields of the shape in their order, and give the value.  None of them
has more levels of containers than that, where it matters. -/
structure Fills (c : Carrier) (levels : ℕ) (s : Shape α) (slots : List Slot) (a : α) : Prop where
  passes : List.Forall₂ (Passes c) s.fields slots
  builds : ∀ found : Slots, found.named = true →
    (∀ slot ∈ slots, found.find? slot.1 = slot.2.map (carry c)) → s.build found = .ok a
  depth_le : c.limited = true → depthMembers (members slots) ≤ levels

namespace Fills

theorem names_eq {s : Shape α} {slots : List Slot} {a : α} (h : Fills c levels s slots a) :
    s.fields.map (·.1) = slots.map (·.1) :=
  (map_eq_of_forall₂ h.passes.flip fun _ _ _ hpasses ↦ hpasses.name_eq)

/-! ## Building shapes -/

theorem map {s : Shape α} {slots : List Slot} {a : α} (f : α → β)
    (h : Fills c levels s slots a) : Fills c levels (f <$> s) slots (f a) where
  passes := h.passes
  depth_le := h.depth_le
  builds := by
    intro found hnamed hslots
    change f <$> s.build found = .ok (f a)
    rw [h.builds found hnamed hslots]
    rfl

theorem seq {f : Shape (α → β)} {s : Shape α} {slots more : List Slot} {g : α → β} {a : α}
    {lower : ℕ} (hf : Fills c levels f slots g) (hs : Fills c lower s more a) :
    Fills c (max levels lower) (f <*> s) (slots ++ more) (g a) where
  passes := List.rel_append hf.passes hs.passes
  depth_le hlimited := by
    rw [members_append, depthMembers_append]
    exact max_le_max (hf.depth_le hlimited) (hs.depth_le hlimited)
  builds := by
    intro found hnamed hslots
    change f.build found <*> s.build found = .ok (g a)
    rw [hf.builds found hnamed fun slot hslot ↦ hslots slot (List.mem_append_left _ hslot),
      hs.builds found hnamed fun slot hslot ↦ hslots slot (List.mem_append_right _ hslot)]
    rfl

variable [Decode α] {name : String} {json : Json Empty} {a : α}

theorem check_eq_ok {draft : Draft} (h : decode draft = .ok a) :
    check (decode (α := α)) draft = .ok () := by
  rw [check, h]
  rfl

theorem passes_present (h : Arrives c levels json a) :
    List.Forall₂ (Passes c) [(name, check (decode (α := α)))] [(name, some json)] := by
  refine List.Forall₂.cons ⟨rfl, ?_, ?_⟩ .nil
  · rintro _ ⟨⟩
    exact h.whole
  · rintro _ ⟨⟩
    exact check_eq_ok h.decoded

theorem passes_absent (field : Draft → Except Misread Unit) :
    List.Forall₂ (Passes c) [(name, field)] [(name, none)] := by
  refine List.Forall₂.cons ⟨rfl, ?_, ?_⟩ .nil
  · rintro _ ⟨⟩
  · rintro _ ⟨⟩

theorem depthMembers_present (h : Arrives c levels json a) (hlimited : c.limited = true) :
    depthMembers (members [(name, some json)]) ≤ levels :=
  max_le (h.depth_le hlimited) (Nat.zero_le levels)

theorem required (h : Arrives c levels json a) :
    Fills c levels (required name) [(name, some json)] a where
  passes := passes_present h
  depth_le := depthMembers_present h
  builds := by
    intro found _ hslots
    have hfound := hslots _ List.mem_cons_self
    simp only [Option.map_some] at hfound
    simp only [Shape.required, hfound, h.decoded]

theorem defaulted {value : α} (h : Arrives c levels json a) :
    Fills c levels (defaulted name value) [(name, some json)] a where
  passes := passes_present h
  depth_le := depthMembers_present h
  builds := by
    intro found _ hslots
    have hfound := hslots _ List.mem_cons_self
    simp only [Option.map_some] at hfound
    simp only [Shape.defaulted, hfound, h.decoded]

/-- A field that is left out has its value for absence. -/
theorem absent : Fills c levels (Shape.defaulted name a) [(name, none)] a where
  passes := passes_absent _
  depth_le _ := Nat.zero_le levels
  builds := by
    intro found _ hslots
    have hfound := hslots _ List.mem_cons_self
    simp only [Option.map_none] at hfound
    simp only [Shape.defaulted, hfound]

/-- A field that is left out for its value of absence only. -/
theorem defaultedUnless {value : α} {omitted : Bool} (h : Arrives c levels json a)
    (habsent : omitted = true → a = value) :
    Fills c levels (Shape.defaulted name value) [slotUnless omitted name json] a := by
  cases omitted with
  | false => exact defaulted h
  | true =>
    obtain rfl := habsent rfl
    exact absent

theorem optional {value : Option α} (h : Arrives c levels json value) :
    Fills c levels (optional name) [(name, some json)] value where
  passes := passes_present h
  depth_le := depthMembers_present h
  builds := by
    intro found _ hslots
    have hfound := hslots _ List.mem_cons_self
    simp only [Option.map_some] at hfound
    simp only [Shape.optional, hfound, h.decoded]

end Fills

/-! ## Reading objects -/

section Objects

variable {fields : List (String × (Draft → Except Misread Unit))} {slots : List Slot}

theorem carryMembers_cons_some (name : String) (json : Json Empty) (slots : List Slot) :
    carryMembers c (members ((name, some json) :: slots)) =
      (name, carry c json) :: carryMembers c (members slots) := rfl

theorem carryMembers_cons_none (name : String) (slots : List Slot) :
    carryMembers c (members ((name, none) :: slots)) = carryMembers c (members slots) := rfl

/-- Under a name that no slot has, nothing is found. -/
theorem lookup?_eq_none {name : String} (h : name ∉ slots.map (·.1)) :
    lookup? name (carryMembers c (members slots)) = none := by
  induction slots with
  | nil => rfl
  | cons slot rest ih =>
    rw [List.map_cons, List.mem_cons, not_or] at h
    obtain ⟨slotName, written⟩ := slot
    cases written with
    | none => exact ih h.2
    | some json =>
      rw [carryMembers_cons_some, lookup?, if_neg (Ne.symm h.1)]
      exact ih h.2

/-- Among slots with names of their own, each is found under its name. -/
theorem lookup?_of_mem (hdistinct : (slots.map (·.1)).Nodup) {slot : Slot} (h : slot ∈ slots) :
    lookup? slot.1 (carryMembers c (members slots)) = slot.2.map (carry c) := by
  induction slots with
  | nil => cases h
  | cons first rest ih =>
    rw [List.map_cons, List.nodup_cons] at hdistinct
    obtain ⟨name, written⟩ := first
    cases List.mem_cons.mp h with
    | inl hfirst =>
      subst hfirst
      cases written with
      | none =>
        rw [carryMembers_cons_none]
        exact lookup?_eq_none hdistinct.1
      | some json =>
        rw [carryMembers_cons_some, lookup?, if_pos rfl]
        rfl
    | inr hrest =>
      cases written with
      | none => exact ih hdistinct.2 hrest
      | some json =>
        have hne : name ≠ slot.1 := by
          intro heq
          have hmem : slot.1 ∈ rest.map (·.1) := List.mem_map_of_mem hrest
          exact hdistinct.1 (heq ▸ hmem)
        rw [carryMembers_cons_some, lookup?, if_neg hne]
        exact ih hdistinct.2 hrest

theorem field?_of_mem (hdistinct : (fields.map (·.1)).Nodup)
    {field : String × (Draft → Except Misread Unit)} (h : field ∈ fields) :
    field? fields field.1 = some field.2 := by
  unfold field?
  induction fields with
  | nil => cases h
  | cons first rest ih =>
    rw [List.map_cons, List.nodup_cons] at hdistinct
    cases List.mem_cons.mp h with
    | inl hfirst => simp [hfirst]
    | inr hrest =>
      have hne : ¬ first.1 = field.1 := by
        intro heq
        exact hdistinct.1 (heq ▸ List.mem_map_of_mem hrest)
      rw [List.find?_cons_of_neg (by simpa using hne)]
      exact ih hdistinct.2 hrest

/-- The members of an object pass their checks one after another. -/
theorem checkMembers_eq_ok (hdistinct : (fields.map (·.1)).Nodup) {met : List String}
    {part : List (String × (Draft → Except Misread Unit))} (hpart : ∀ field ∈ part, field ∈ fields)
    (hpasses : List.Forall₂ (Passes c) part slots) (hslots : (slots.map (·.1)).Nodup)
    (hmet : ∀ name ∈ slots.map (·.1), name ∉ met) :
    checkMembers fields met (carryMembers c (members slots)) = .ok () := by
  induction hpasses generalizing met with
  | nil => rfl
  | @cons field slot part slots hfirst _ ih =>
    rw [List.map_cons, List.nodup_cons] at hslots
    rw [List.map_cons, List.forall_mem_cons] at hmet
    have hrest : ∀ f ∈ part, f ∈ fields := fun f hf ↦ hpart f (List.mem_cons_of_mem _ hf)
    obtain ⟨name, written⟩ := slot
    cases written with
    | none => exact ih hrest hslots.2 hmet.2
    | some json =>
      have hfield : field? fields name = some field.2 := by
        have hname : field.1 = name := hfirst.name_eq
        rw [← hname]
        exact field?_of_mem hdistinct (hpart field List.mem_cons_self)
      rw [carryMembers_cons_some, checkMembers, hfield]
      simp only [List.contains_eq_mem, hmet.1, decide_false, Bool.false_eq_true, if_false,
        hfirst.checked json rfl, ok_bind]
      apply ih hrest hslots.2
      intro other hother
      rw [List.mem_cons, not_or]
      exact ⟨fun heq ↦ hslots.1 (heq ▸ hother), hmet.2 other hother⟩

theorem allMembersWhole_of_passes {part : List (String × (Draft → Except Misread Unit))}
    (hpasses : List.Forall₂ (Passes c) part slots) :
    Json.allMembersWhole (carryMembers c (members slots)) = true := by
  induction hpasses with
  | nil => rfl
  | @cons field slot part slots hfirst _ ih =>
    obtain ⟨name, written⟩ := slot
    cases written with
    | none => exact ih
    | some json =>
      rw [carryMembers_cons_some, Json.allMembersWhole, hfirst.whole json rfl, ih]
      rfl

end Objects

/-- No two fields have the same name. -/
def Distinct (s : Shape α) : Prop := (s.fields.map (·.1)).Nodup

instance (s : Shape α) : Decidable s.Distinct := inferInstanceAs (Decidable (List.Nodup _))

/-- A structure arrives that was written as what fills its shape. -/
theorem Fills.arrives [Decode α] {s : Shape α} {slots : List Slot} {a : α} {json : Json Empty}
    (h : Fills c levels s slots a) (hdecode : (decode : Draft → Except Misread α) = s.run)
    (hjson : json = .object (members slots)) (hdistinct : s.Distinct) :
    Arrives c (levels + 1) json a := by
  have hslots : (slots.map (·.1)).Nodup := h.names_eq ▸ hdistinct
  subst hjson
  refine ⟨?_, ?_, fun hlimited ↦ Nat.succ_le_succ (h.depth_le hlimited)⟩
  · rw [carry, Json.isWhole]
    exact allMembersWhole_of_passes h.passes
  · have hchecked : checkMembers s.fields [] (carryMembers c (members slots)) = .ok () :=
      checkMembers_eq_ok hdistinct (fun _ hf ↦ hf) h.passes hslots fun _ _ ↦ List.not_mem_nil
    rw [hdecode, carry, run, hchecked, ok_bind]
    exact h.builds _ rfl fun slot hslot ↦ lookup?_of_mem hslots hslot

theorem notNull [Decode α] {s : Shape α} (hdecode : (decode : Draft → Except Misread α) = s.run) :
    NotNull α := by
  constructor
  intro a h
  rw [hdecode] at h
  cases h

end Shape
end ShopPayments
