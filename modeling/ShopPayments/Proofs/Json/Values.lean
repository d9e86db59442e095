import ShopPayments.Proofs.Decimal.Quantity
import ShopPayments.Proofs.Json.Carrier
import ShopPayments.Proofs.Outcome

/-!
# What arrives of a value

A decimal goes on its way as a binary64 number and need not come back digit for digit.  If it comes
back as an equal number (`Decimal.ReadsBack`), what arrives for it is `Decimal.reread`, which is
the same number.  A `Portable` type says what a value of it needs of a carrier, and that the value
then arrives with each of its decimals read back and nothing else changed.  It also says how many
containers of a value stand inside each other, since a text takes only so many.
-/

namespace ShopPayments

open Json (Arrives carry carryElements carryMembers depth depthElements depthMembers)

/-! ## Decimals -/

namespace Decimal

variable {c : Carrier} {d : Decimal}

/-- The number that stands for the decimal is read as an equal decimal. -/
def ReadsBack (c : Carrier) (d : Decimal) : Prop :=
  ∃ d' : Decimal, decode (c.real d.negative d.toBinary64) = .ok d' ∧ d'.toRat = d.toRat

/-- The decimal that is read for a decimal, where it reads back. -/
def reread (c : Carrier) (d : Decimal) : Decimal :=
  match decode (c.real d.negative d.toBinary64) with
  | .ok d' => if d'.toRat = d.toRat then d' else d
  | .error _ => d

theorem toRat_reread (c : Carrier) (d : Decimal) : (reread c d).toRat = d.toRat := by
  unfold reread
  split
  · split
    · assumption
    · rfl
  · rfl

theorem decode_reread (h : ReadsBack c d) :
    decode (c.real d.negative d.toBinary64) = .ok (reread c d) := by
  obtain ⟨d', hdecode, heq⟩ := h
  unfold reread
  rw [hdecode]
  exact congrArg Except.ok (if_pos heq).symm

theorem isWhole_of_decode {draft : Draft} (h : decode draft = .ok d) :
    Json.isWhole draft = true := by
  cases draft with
  | null | bool _ | integer _ | real _ _ | string _ => rfl
  | array _ | object _ | hole _ => cases h

theorem arrives (h : ReadsBack c d) : Arrives c 0 (encode d) (reread c d) where
  whole := isWhole_of_decode (decode_reread h)
  decoded := decode_reread h
  depth_le _ := le_rfl

end Decimal

/-! ## Portable types -/

/-- A type whose values arrive as they are. -/
class Plain (α : Type) [Encode α] [Decode α] where
  /-- How many containers of a value stand inside each other. -/
  levels : ℕ
  plain : ∀ {c : Carrier} (a : α), Arrives c levels (encode a) a

/-- A type whose values arrive with their decimals read back. -/
class Portable (α : Type) [Encode α] [Decode α] where
  /-- What a value needs of a carrier. -/
  Legible : Carrier → α → Prop
  /-- The value with its decimals put through a function. -/
  mapDecimals : (Decimal → Decimal) → α → α
  mapDecimals_id : ∀ a : α, mapDecimals id a = a
  /-- How many containers of a value stand inside each other. -/
  levels : ℕ
  arrives : ∀ {c : Carrier} {a : α}, Legible c a →
    Arrives c levels (encode a) (mapDecimals (Decimal.reread c) a)

export Plain (plain)
export Portable (Legible mapDecimals mapDecimals_id arrives)

/-- A type of which nothing is written as null. -/
class NotNull (α : Type) [Decode α] : Prop where
  decode_ne : ∀ a : α, decode (.null : Draft) ≠ .ok a

variable {α : Type} {c : Carrier}

/-- The same value, apart from how its decimals are written down. -/
def NumericallyEq [Encode α] [Decode α] [Portable α] (a b : α) : Prop :=
  ∃ f : Decimal → Decimal, (∀ d, (f d).toRat = d.toRat) ∧ b = mapDecimals f a

theorem NumericallyEq.refl [Encode α] [Decode α] [Portable α] (a : α) : NumericallyEq a a :=
  ⟨id, fun _ ↦ rfl, (mapDecimals_id a).symm⟩

instance : Portable Decimal where
  Legible := Decimal.ReadsBack
  mapDecimals f := f
  mapDecimals_id _ := rfl
  levels := 0
  arrives := Decimal.arrives

instance : NotNull Decimal := ⟨nofun⟩

instance : Plain Bool := ⟨0, fun _ ↦ ⟨rfl, rfl, fun _ ↦ le_rfl⟩⟩

instance : NotNull Bool := ⟨nofun⟩

instance : Plain String := ⟨0, fun _ ↦ ⟨rfl, rfl, fun _ ↦ le_rfl⟩⟩

instance : NotNull String := ⟨nofun⟩

/-! ## Whole numbers -/

theorem arrives_integer [Decode α] {n : Int} {a : α} (hleast : Int64.minValue.toInt ≤ n)
    (hgreatest : n < UInt64.size) (hdecode : decode (.integer n) = .ok a) :
    Arrives c 0 (.integer n) a := by
  have hcarry : carry c (.integer n) = .integer n := c.integer_eq n hleast hgreatest
  refine ⟨?_, ?_, fun _ ↦ le_rfl⟩
  · rw [hcarry]
    rfl
  · rw [hcarry]
    exact hdecode

theorem decodeInteger_bind {least greatest n : Int} (hleast : least ≤ n) (hgreatest : n ≤ greatest)
    (f : Int → α) :
    (do let m ← Json.decodeInteger least greatest (.integer n); pure (f m)) = .ok (f n) := by
  rw [Json.decodeInteger, if_pos ⟨hleast, hgreatest⟩]
  rfl

theorem minValue_le_natCast (n : Nat) : Int64.minValue.toInt ≤ n := by
  have hleast : Int64.minValue.toInt = -9223372036854775808 := rfl
  omega

instance : Plain UInt64 where
  levels := 0
  plain n := by
    have hbound : n.toNat < UInt64.size := n.toNat_lt
    have hdecode : decode (.integer n.toNat : Draft) = .ok (UInt64.ofNat (n.toNat : Int).toNat) :=
      decodeInteger_bind (by omega) (by omega) fun m ↦ UInt64.ofNat m.toNat
    rw [Int.toNat_natCast, UInt64.ofNat_toNat] at hdecode
    exact arrives_integer (minValue_le_natCast _) (by exact_mod_cast hbound) hdecode

instance : NotNull UInt64 := ⟨nofun⟩

instance : Plain UInt32 where
  levels := 0
  plain n := by
    have hbound : n.toNat < UInt32.size := n.toNat_lt
    have hsize : UInt32.size ≤ UInt64.size := by decide
    have hdecode : decode (.integer n.toNat : Draft) = .ok (UInt32.ofNat (n.toNat : Int).toNat) :=
      decodeInteger_bind (by omega) (by omega) fun m ↦ UInt32.ofNat m.toNat
    rw [Int.toNat_natCast, UInt32.ofNat_toNat] at hdecode
    exact arrives_integer (minValue_le_natCast _) (by omega) hdecode

instance : NotNull UInt32 := ⟨nofun⟩

instance : Plain Int32 where
  levels := 0
  plain n := by
    have hleast : Int32.minValue.toInt ≤ n.toInt := n.minValue_le_toInt
    have hgreatest : n.toInt ≤ Int32.maxValue.toInt := n.toInt_le
    have hdecode : decode (.integer n.toInt : Draft) = .ok (Int32.ofInt n.toInt) :=
      decodeInteger_bind hleast hgreatest Int32.ofInt
    rw [Int32.ofInt_toInt] at hdecode
    have hmin : Int64.minValue.toInt ≤ Int32.minValue.toInt := by decide
    have hmax : Int32.maxValue.toInt < UInt64.size := by decide
    exact arrives_integer (hmin.trans hleast) (by omega) hdecode

/-! ## Free values -/

namespace Json

mutual

theorem widen_self : ∀ json : Json Empty, (widen json : Json Empty) = json
  | .null | .bool _ | .integer _ | .real _ _ | .string _ => rfl
  | .array elements => congrArg Json.array (widenElements_self elements)
  | .object members => congrArg Json.object (widenMembers_self members)

theorem widenElements_self :
    ∀ elements : List (Json Empty), (widenElements elements : List (Json Empty)) = elements
  | [] => rfl
  | e :: rest => by rw [widenElements, widen_self e, widenElements_self rest]

theorem widenMembers_self :
    ∀ members : List (String × Json Empty),
      (widenMembers members : List (String × Json Empty)) = members
  | [] => rfl
  | (k, v) :: rest => by rw [widenMembers, widen_self v, widenMembers_self rest]

end

end Json

/-- A free value survives: it is carried as it is, which is to say that each of its numbers is read
as itself, and it has at most so many levels of containers, where that matters. -/
structure Json.Survives (c : Carrier) (levels : ℕ) (json : Json Empty) : Prop where
  carry_eq : carry c json = widen json
  depth_le : c.limited = true → depth json ≤ levels

/-- A free value that survives arrives. -/
theorem arrives_free {levels : ℕ} {json : Json Empty} (h : Json.Survives c levels json) :
    Arrives c levels (encode json) json := by
  have hencode : encode json = json := Json.widen_self json
  rw [hencode]
  refine ⟨?_, ?_, h.depth_le⟩
  · rw [h.carry_eq]
    exact Json.isWhole_widen json
  · rw [h.carry_eq]
    exact Json.decodeAny_widen json

/-! ## Names -/

/-- The value of a name arrives. -/
theorem arrives_name [Decode α] {ofName? : String → Option α} {name : String} {a : α}
    (hdecode : (decode : Draft → Except Misread α) = Json.decodeName ofName?)
    (hname : ofName? name = some a) : Arrives c 0 (.string name) a where
  whole := rfl
  depth_le _ := le_rfl
  decoded := by
    rw [hdecode, carry, Json.decodeName]
    simp only [hname]

theorem notNull_of_decodeName [Decode α] {ofName? : String → Option α}
    (hdecode : (decode : Draft → Except Misread α) = Json.decodeName ofName?) : NotNull α := by
  constructor
  intro a h
  rw [hdecode] at h
  cases h

/-! ## Containers -/

theorem decode_some [Decode α] [NotNull α] {draft : Draft} {a : α} (h : decode draft = .ok a) :
    decode draft = .ok (some a) := by
  cases draft with
  | null => exact absurd h (NotNull.decode_ne a)
  | bool _ | integer _ | real _ _ | string _ | array _ | object _ | hole _ =>
    change some <$> decode _ = _
    rw [h]
    rfl

section Options

variable [Encode α] [Decode α] [NotNull α] {levels : ℕ}

theorem arrives_option {f : α → α} {o : Option α}
    (h : ∀ a ∈ o, Arrives c levels (encode a) (f a)) :
    Arrives c levels (encode o) (o.map f) := by
  cases o with
  | none => exact ⟨rfl, rfl, fun _ ↦ Nat.zero_le levels⟩
  | some a =>
    have ha : Arrives c levels (encode a) (f a) := h a rfl
    exact ⟨ha.whole, decode_some ha.decoded, ha.depth_le⟩

theorem arrives_option_self {o : Option α} (h : ∀ a ∈ o, Arrives c levels (encode a) a) :
    Arrives c levels (encode o) o := by
  have ho : Arrives c levels (encode o) (o.map id) := arrives_option h
  rwa [Option.map_id] at ho

instance [Plain α] : Plain (Option α) where
  levels := Plain.levels α
  plain _ := arrives_option_self fun a _ ↦ plain a

instance [Portable α] : Portable (Option α) where
  Legible c o := ∀ a ∈ o, Legible c a
  mapDecimals f o := o.map (mapDecimals f)
  mapDecimals_id o := by
    have hid : mapDecimals (α := α) id = id := funext mapDecimals_id
    rw [hid, Option.map_id, id]
  levels := Portable.levels α
  arrives h := arrives_option fun a ha ↦ arrives (h a ha)

theorem mapDecimals_of_isNone [Portable α] {f : Decimal → Decimal} {o : Option α}
    (h : o.isNone = true) : mapDecimals f o = none :=
  Option.map_eq_none_iff.mpr (Option.isNone_iff_eq_none.mp h)

end Options

section Lists

variable [Encode α] [Decode α] {levels : ℕ}

theorem arrives_list {f : α → α} {as : List α} (h : ∀ a ∈ as, Arrives c levels (encode a) (f a)) :
    Arrives c (levels + 1) (encode as) (as.map f) := by
  have hall : Json.allWhole (carryElements c (as.map encode)) = true ∧
      Json.decodeElements decode (carryElements c (as.map encode)) = .ok (as.map f) ∧
      (c.limited = true → depthElements (as.map encode) ≤ levels) := by
    induction as with
    | nil => exact ⟨rfl, rfl, fun _ ↦ Nat.zero_le levels⟩
    | cons a rest ih =>
      rw [List.forall_mem_cons] at h
      obtain ⟨hwhole, hdecoded, hdepth⟩ := ih h.2
      refine ⟨?_, ?_, fun hlimited ↦ max_le (h.1.depth_le hlimited) (hdepth hlimited)⟩
      · simp only [List.map_cons, carryElements, Json.allWhole, h.1.whole, hwhole, Bool.and_self]
      · simp only [List.map_cons, carryElements, Json.decodeElements, h.1.decoded, hdecoded,
          ok_bind, pure_eq]
  exact ⟨hall.1, hall.2.1, fun hlimited ↦ Nat.succ_le_succ (hall.2.2 hlimited)⟩

instance [Plain α] : Plain (List α) where
  levels := Plain.levels α + 1
  plain {c} as := by
    have h : Arrives c (Plain.levels α + 1) (encode as) (as.map id) :=
      arrives_list fun a _ ↦ plain a
    rwa [List.map_id] at h

instance [Portable α] : Portable (List α) where
  Legible c as := ∀ a ∈ as, Legible c a
  mapDecimals f as := as.map (mapDecimals f)
  mapDecimals_id as := by
    have hid : mapDecimals (α := α) id = id := funext mapDecimals_id
    rw [hid, List.map_id]
  levels := Portable.levels α + 1
  arrives h := arrives_list fun a ha ↦ arrives (h a ha)

theorem mapDecimals_of_isEmpty [Portable α] {f : Decimal → Decimal} {as : List α}
    (h : as.isEmpty = true) : mapDecimals f as = [] :=
  List.map_eq_nil_iff.mpr (List.isEmpty_iff.mp h)

end Lists

namespace Dictionary

variable {β : Type}

theorem ext {d d' : Dictionary α} (h : d.entries = d'.entries) : d = d' := by
  cases d
  cases d'
  cases h
  rfl

theorem insertEntry_of_lt {key : String} {value : α} {entries : List (String × α)}
    (h : ∀ e ∈ entries, e.1 < key) : insertEntry key value entries = entries ++ [(key, value)] := by
  induction entries with
  | nil => rfl
  | cons e rest ih =>
    rw [List.forall_mem_cons] at h
    have hlt : ¬ key < e.1 := String.lt_asymm h.1
    have hne : key ≠ e.1 := fun heq ↦ String.lt_irrefl key (heq ▸ h.1)
    rw [insertEntry, if_neg hlt, if_neg hne, ih h.2, List.cons_append]

theorem entries_foldl_insert {d : Dictionary α} {entries : List (String × α)}
    (h : (d.entries ++ entries).Pairwise fun a b ↦ a.1 < b.1) :
    (entries.foldl (fun d e ↦ d.insert e.1 e.2) d).entries = d.entries ++ entries := by
  induction entries generalizing d with
  | nil => rw [List.foldl_nil, List.append_nil]
  | cons e rest ih =>
    have hlast : ∀ e' ∈ d.entries, e'.1 < e.1 := fun e' he' ↦
      (List.pairwise_append.mp h).2.2 e' he' e List.mem_cons_self
    have hinsert : (d.insert e.1 e.2).entries = d.entries ++ [e] := insertEntry_of_lt hlast
    rw [List.foldl_cons, ih (by rwa [hinsert, List.append_assoc]), hinsert, List.append_assoc]
    rfl

/-- The entries of a dictionary put into an empty one give the dictionary back. -/
theorem ofList_entries (d : Dictionary α) : ofList d.entries = d := by
  have h : (ofList d.entries).entries = d.entries := entries_foldl_insert d.sorted
  exact ext h

/-- The dictionary with its values put through a function. -/
def map (f : α → β) (d : Dictionary α) : Dictionary β where
  entries := d.entries.map fun e ↦ (e.1, f e.2)
  sorted := List.pairwise_map.mpr d.sorted

theorem map_id (d : Dictionary α) : d.map id = d := ext (List.map_id d.entries)

theorem isEmpty_iff {d : Dictionary α} : d.isEmpty = true ↔ d = empty := by
  rw [isEmpty, List.isEmpty_iff]
  exact ⟨fun h ↦ ext h, fun h ↦ congrArg entries h⟩

end Dictionary

section Dictionaries

variable [Encode α] [Decode α] {levels : ℕ}

theorem arrives_dictionary {f : α → α} {d : Dictionary α}
    (h : ∀ e ∈ d.entries, Arrives c levels (encode e.2) (f e.2)) :
    Arrives c (levels + 1) (encode d) (d.map f) := by
  have hall : ∀ entries : List (String × α),
      (∀ e ∈ entries, Arrives c levels (encode e.2) (f e.2)) →
      Json.allMembersWhole (carryMembers c (entries.map fun e ↦ (e.1, encode e.2))) = true ∧
      Json.decodeMembers decode (carryMembers c (entries.map fun e ↦ (e.1, encode e.2))) =
        .ok (entries.map fun e ↦ (e.1, f e.2)) ∧
      (c.limited = true → depthMembers (entries.map fun e ↦ (e.1, encode e.2)) ≤ levels) := by
    intro entries hentries
    induction entries with
    | nil => exact ⟨rfl, rfl, fun _ ↦ Nat.zero_le levels⟩
    | cons e rest ih =>
      rw [List.forall_mem_cons] at hentries
      obtain ⟨hwhole, hdecoded, hdepth⟩ := ih hentries.2
      refine ⟨?_, ?_, fun hlimited ↦ max_le (hentries.1.depth_le hlimited) (hdepth hlimited)⟩
      · simp only [List.map_cons, carryMembers, Json.allMembersWhole, hentries.1.whole, hwhole,
          Bool.and_self]
      · simp only [List.map_cons, carryMembers, Json.decodeMembers, hentries.1.decoded, hdecoded,
          ok_bind, pure_eq]
  obtain ⟨hwhole, hdecoded, hdepth⟩ := hall d.entries h
  refine ⟨hwhole, ?_, fun hlimited ↦ Nat.succ_le_succ (hdepth hlimited)⟩
  change (do
    let entries ← Json.decodeMembers decode (carryMembers c (d.entries.map
      fun e : String × α ↦ (e.1, encode e.2)))
    pure (Dictionary.ofList entries)) = _
  rw [hdecoded, ok_bind]
  exact congrArg Except.ok (Dictionary.ofList_entries (d.map f))

theorem arrives_dictionary_self {d : Dictionary α}
    (h : ∀ e ∈ d.entries, Arrives c levels (encode e.2) e.2) :
    Arrives c (levels + 1) (encode d) d := by
  have hd : Arrives c (levels + 1) (encode d) (d.map id) := arrives_dictionary h
  rwa [Dictionary.map_id] at hd

instance [Plain α] : Plain (Dictionary α) where
  levels := Plain.levels α + 1
  plain _ := arrives_dictionary_self fun e _ ↦ plain e.2

instance [Portable α] : Portable (Dictionary α) where
  Legible c d := ∀ e ∈ d.entries, Legible c e.2
  mapDecimals f d := d.map (mapDecimals f)
  mapDecimals_id d := by
    have hid : mapDecimals (α := α) id = id := funext mapDecimals_id
    rw [hid, Dictionary.map_id]
  levels := Portable.levels α + 1
  arrives h := arrives_dictionary fun e he ↦ arrives (h e he)

end Dictionaries

end ShopPayments
