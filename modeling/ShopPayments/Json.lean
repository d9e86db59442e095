import ShopPayments.Binary64

/-!
# JSON values

Members keep their order and may repeat. The type is open in one place: a hole.
A finished value is a `Json Empty`, which has none. What is read from a text is a
`Draft`, whose holes are the `Gap`s of the text: a scalar or a key without a value,
a container that is nested too deeply, or the place where the text stops being JSON.
Everything before a gap is still there, so that a fault of meaning which stands earlier
in the text is found first.
-/

namespace ShopPayments

/-- A JSON value whose holes carry `Hole`. -/
inductive Json (Hole : Type) where
  | null
  | bool (value : Bool)
  | integer (value : Int)
  | real (negative : Bool) (magnitude : Binary64)
  | string (value : String)
  | array (elements : List (Json Hole))
  | object (members : List (String × Json Hole))
  | hole (gap : Hole)

/-- What can be wrong with a text at one place. -/
inductive Gap where
  /-- A number out of range, or a string with half a surrogate pair; the text goes on. -/
  | unreadable
  /-- A member of an object whose key has half a surrogate pair; the text goes on. -/
  | key
  /-- An array or an object inside too many others; the text goes on. -/
  | deep
  /-- The text stops being JSON here and nothing follows. -/
  | cut
  deriving DecidableEq, Repr

/-- A JSON value as read from a text. -/
abbrev Draft := Json Gap

namespace Json

/-- The first value stored under a key. -/
def lookup? {Hole : Type} (key : String) : List (String × Json Hole) → Option (Json Hole)
  | [] => none
  | (k, v) :: rest => if k = key then some v else lookup? key rest

mutual

/-- The same value as a draft or any other kind of JSON. -/
def widen {Hole : Type} : Json Empty → Json Hole
  | .null => .null
  | .bool b => .bool b
  | .integer n => .integer n
  | .real negative x => .real negative x
  | .string s => .string s
  | .array elements => .array (widenElements elements)
  | .object members => .object (widenMembers members)

def widenElements {Hole : Type} : List (Json Empty) → List (Json Hole)
  | [] => []
  | e :: rest => widen e :: widenElements rest

def widenMembers {Hole : Type} : List (String × Json Empty) → List (String × Json Hole)
  | [] => []
  | (k, v) :: rest => (k, widen v) :: widenMembers rest

end

end Json

end ShopPayments
