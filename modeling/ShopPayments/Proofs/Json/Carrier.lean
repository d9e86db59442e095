import ShopPayments.Json.Codec

/-!
# Values on their way

A value is handed over as a tree or as a text.  In a tree all numbers stay what they are, in a text
they become what their digits are read as, which need not be the same.  A `Carrier` says what
becomes of numbers, and `Json.carry` puts a whole value through it.  A text also limits how many
arrays and objects stand inside each other (`Json.depth`): what is further in is lost to
`Json.prune`.  A value arrives (`Json.Arrives`) as what decoding gives for it, and then nothing of
it is cut off and it is no deeper than its type lets it be.
-/

namespace ShopPayments

/-- What becomes of the numbers of a value, and whether there is a limit to the containers that
stand inside each other.  Whole numbers of 64 bits stay as they are. -/
structure Carrier where
  integer : Int → Draft
  real : Bool → Binary64 → Draft
  limited : Bool
  integer_eq : ∀ n, Int64.minValue.toInt ≤ n → n < UInt64.size → integer n = .integer n

/-- In a tree every number stays what it is, however deep. -/
def Carrier.tree : Carrier := ⟨.integer, .real, false, fun _ _ _ ↦ rfl⟩

namespace Json

mutual

/-- The value with its numbers put through a carrier. -/
def carry (c : Carrier) : Json Empty → Draft
  | .null => .null
  | .bool b => .bool b
  | .integer n => c.integer n
  | .real negative x => c.real negative x
  | .string s => .string s
  | .array elements => .array (carryElements c elements)
  | .object members => .object (carryMembers c members)

def carryElements (c : Carrier) : List (Json Empty) → List Draft
  | [] => []
  | e :: rest => carry c e :: carryElements c rest

def carryMembers (c : Carrier) : List (String × Json Empty) → List (String × Draft)
  | [] => []
  | (k, v) :: rest => (k, carry c v) :: carryMembers c rest

end

variable {c : Carrier}

mutual

/-- A tree carries every value as it is. -/
theorem carry_tree : ∀ json, carry .tree json = widen json
  | .null | .bool _ | .integer _ | .real _ _ | .string _ => rfl
  | .array elements => congrArg Json.array (carryElements_tree elements)
  | .object members => congrArg Json.object (carryMembers_tree members)

theorem carryElements_tree : ∀ elements, carryElements .tree elements = widenElements elements
  | [] => rfl
  | e :: rest => by rw [carryElements, widenElements, carry_tree e, carryElements_tree rest]

theorem carryMembers_tree : ∀ members, carryMembers .tree members = widenMembers members
  | [] => rfl
  | (k, v) :: rest => by rw [carryMembers, widenMembers, carry_tree v, carryMembers_tree rest]

end

mutual

/-- A finished value has no holes, so nothing of it is cut off. -/
theorem isWhole_widen : ∀ json, isWhole (widen json) = true
  | .null | .bool _ | .integer _ | .real _ _ | .string _ => rfl
  | .array elements => by rw [widen, isWhole]; exact allWhole_widenElements elements
  | .object members => by rw [widen, isWhole]; exact allMembersWhole_widenMembers members

theorem allWhole_widenElements : ∀ elements, allWhole (widenElements elements) = true
  | [] => rfl
  | e :: rest => by
    rw [widenElements, allWhole, isWhole_widen e, allWhole_widenElements rest]
    rfl

theorem allMembersWhole_widenMembers : ∀ members, allMembersWhole (widenMembers members) = true
  | [] => rfl
  | (k, v) :: rest => by
    rw [widenMembers, allMembersWhole, isWhole_widen v, allMembersWhole_widenMembers rest]
    rfl

end

mutual

/-- Decoding without a type gives back what has no holes. -/
theorem decodeAny_widen : ∀ json, decodeAny (widen json) = .ok json
  | .null | .bool _ | .integer _ | .real _ _ | .string _ => rfl
  | .array elements => by
    rw [widen, decodeAny, decodeAnyElements_widen elements]
    rfl
  | .object members => by
    rw [widen, decodeAny, decodeAnyMembers_widen members]
    rfl

theorem decodeAnyElements_widen :
    ∀ elements, decodeAnyElements (widenElements elements) = .ok elements
  | [] => rfl
  | e :: rest => by
    rw [widenElements, decodeAnyElements, decodeAny_widen e, decodeAnyElements_widen rest]
    rfl

theorem decodeAnyMembers_widen : ∀ members, decodeAnyMembers (widenMembers members) = .ok members
  | [] => rfl
  | (k, v) :: rest => by
    rw [widenMembers, decodeAnyMembers, decodeAny_widen v, decodeAnyMembers_widen rest]
    rfl

end

/-! ## Containers inside each other -/

mutual

/-- How many arrays and objects of a value stand inside each other. -/
def depth : Json Empty → Nat
  | .array elements => depthElements elements + 1
  | .object members => depthMembers members + 1
  | _ => 0

def depthElements : List (Json Empty) → Nat
  | [] => 0
  | e :: rest => max (depth e) (depthElements rest)

def depthMembers : List (String × Json Empty) → Nat
  | [] => 0
  | (_, v) :: rest => max (depth v) (depthMembers rest)

end

mutual

/-- What is left of a draft where only so many containers may stand inside each other. -/
def prune : Nat → Draft → Draft
  | room, .array elements =>
    if room = 0 then .hole .deep else .array (pruneElements (room - 1) elements)
  | room, .object members =>
    if room = 0 then .hole .deep else .object (pruneMembers (room - 1) members)
  | _, draft => draft

def pruneElements : Nat → List Draft → List Draft
  | _, [] => []
  | room, e :: rest => prune room e :: pruneElements room rest

def pruneMembers : Nat → List (String × Draft) → List (String × Draft)
  | _, [] => []
  | room, (k, v) :: rest => (k, prune room v) :: pruneMembers room rest

end

/-- The value comes through a carrier in one piece and decodes to the given one.  It has at most so
many levels of containers, where that matters. -/
structure Arrives {α : Type} [Decode α] (c : Carrier) (levels : Nat) (json : Json Empty) (a : α) :
    Prop where
  whole : isWhole (carry c json) = true
  decoded : decode (carry c json) = .ok a
  depth_le : c.limited = true → depth json ≤ levels

end Json
end ShopPayments
