import ShopPayments.Decimal.Wire
import ShopPayments.Dictionary
import ShopPayments.Json.Reader

/-!
# Encoding and decoding

A type that travels as JSON has an encoding and a decoding. Decoding follows the
text: of several faults the one that stands first wins, where a repeated field
counts at its second name and a missing one at the end of the object. Fields that
no structure knows are passed over, whatever they hold, as long as they are JSON;
only their own keys have to be readable. A structure may also come as an array of
its fields in their order.
-/

namespace ShopPayments

/-- Why a draft gives no value. -/
inductive Misread where
  /-- The text is not JSON. -/
  | notJson
  /-- The text is JSON so far and does not fit the type. -/
  | misfit
  deriving DecidableEq, Repr

/-- Types that are written as JSON. -/
class Encode (α : Type) where
  encode : {Hole : Type} → α → Json Hole

/-- Types that are read from JSON. -/
class Decode (α : Type) where
  decode : Draft → Except Misread α

export Encode (encode)
export Decode (decode)

namespace Json

mutual

/-- Whether a passed-over draft is JSON to its end. -/
def isWhole : Draft → Bool
  | .hole .cut => false
  | .array elements => allWhole elements
  | .object members => allMembersWhole members
  | _ => true

def allWhole : List Draft → Bool
  | [] => true
  | e :: rest => isWhole e && allWhole rest

def allMembersWhole : List (String × Draft) → Bool
  | [] => true
  | (_, v) :: rest => isWhole v && allMembersWhole rest

end

/-- Passes over a draft. -/
def skip (draft : Draft) : Except Misread Unit :=
  if isWhole draft then .ok () else .error .notJson

/-- Passes over a member whose key was looked at. -/
def skipMember (value : Draft) : Except Misread Unit :=
  match value with
  | .hole .key => .error .notJson
  | _ => skip value

/-- The fault of a draft that is not of the wanted kind. -/
def mismatch (draft : Draft) : Misread :=
  match draft with
  | .hole _ => .notJson
  | _ => .misfit

/-- A whole number in a range. -/
def decodeInteger (least greatest : Int) (draft : Draft) : Except Misread Int :=
  match draft with
  | .integer n => if least ≤ n ∧ n ≤ greatest then .ok n else .error .misfit
  | _ => .error (mismatch draft)

/-- Elements of an array, each in its turn. -/
def decodeElements {α : Type} (decodeOne : Draft → Except Misread α) :
    List Draft → Except Misread (List α)
  | [] => .ok []
  | e :: rest => do
    let first ← decodeOne e
    let others ← decodeElements decodeOne rest
    pure (first :: others)

/-- Members of an object, each in its turn. -/
def decodeMembers {α : Type} (decodeOne : Draft → Except Misread α) :
    List (String × Draft) → Except Misread (List (String × α))
  | [] => .ok []
  | (k, v) :: rest => do
    let first ← decodeOne v
    let others ← decodeMembers decodeOne rest
    pure ((k, first) :: others)

mutual

/-- Any JSON value, without holes. -/
def decodeAny : Draft → Except Misread (Json Empty)
  | .null => .ok .null
  | .bool b => .ok (.bool b)
  | .integer n => .ok (.integer n)
  | .real negative x => .ok (.real negative x)
  | .string s => .ok (.string s)
  | .array elements => do pure (.array (← decodeAnyElements elements))
  | .object members => do pure (.object (← decodeAnyMembers members))
  | .hole _ => .error .notJson

def decodeAnyElements : List Draft → Except Misread (List (Json Empty))
  | [] => .ok []
  | e :: rest => do
    let first ← decodeAny e
    let others ← decodeAnyElements rest
    pure (first :: others)

def decodeAnyMembers : List (String × Draft) → Except Misread (List (String × Json Empty))
  | [] => .ok []
  | (k, v) :: rest => do
    let first ← decodeAny v
    let others ← decodeAnyMembers rest
    pure ((k, first) :: others)

end

/-- Reads a text as a value of a type. A fault inside the value comes before text behind it. -/
def parse {α : Type} [Decode α] (text : String) : Except Misread α := do
  let (draft, complete) := read text
  let value ← decode draft
  if complete then .ok value else .error .notJson

end Json

instance : Encode Bool := ⟨fun b => .bool b⟩

instance : Decode Bool where
  decode
    | .bool b => .ok b
    | draft => .error (Json.mismatch draft)

instance : Encode String := ⟨fun s => .string s⟩

instance : Decode String where
  decode
    | .string s => .ok s
    | draft => .error (Json.mismatch draft)

instance : Encode UInt64 := ⟨fun n => .integer n.toNat⟩

instance : Decode UInt64 where
  decode draft := do
    let n ← Json.decodeInteger 0 (UInt64.size - 1) draft
    pure (UInt64.ofNat n.toNat)

instance : Encode UInt32 := ⟨fun n => .integer n.toNat⟩

instance : Decode UInt32 where
  decode draft := do
    let n ← Json.decodeInteger 0 (UInt32.size - 1) draft
    pure (UInt32.ofNat n.toNat)

instance : Encode Int32 := ⟨fun n => .integer n.toInt⟩

instance : Decode Int32 where
  decode draft := do
    let n ← Json.decodeInteger Int32.minValue.toInt Int32.maxValue.toInt draft
    pure (Int32.ofInt n)

instance : Decode Int64 where
  decode draft := do
    let n ← Json.decodeInteger Int64.minValue.toInt Int64.maxValue.toInt draft
    pure (Int64.ofInt n)

instance : Encode Decimal := ⟨fun d => .real d.negative d.toBinary64⟩

/-- A decimal is read from any number and from a text. -/
def Decimal.ofDraft? : Draft → Option Decimal
  | .integer n => Decimal.ofInt? n
  | .real negative x => Decimal.ofBinary64? negative x
  | .string s => Decimal.ofText? s
  | _ => none

instance : Decode Decimal where
  decode draft :=
    match Decimal.ofDraft? draft with
    | some d => .ok d
    | none => .error (Json.mismatch draft)

instance : Encode (Json Empty) := ⟨Json.widen⟩

instance : Decode (Json Empty) := ⟨Json.decodeAny⟩

instance {α : Type} [Encode α] : Encode (Option α) where
  encode
    | none => .null
    | some a => encode a

instance {α : Type} [Decode α] : Decode (Option α) where
  decode
    | .null => .ok none
    | draft => some <$> decode draft

instance {α : Type} [Encode α] : Encode (List α) := ⟨fun as => .array (as.map encode)⟩

instance {α : Type} [Decode α] : Decode (List α) where
  decode
    | .array elements => Json.decodeElements decode elements
    | draft => .error (Json.mismatch draft)

instance {α : Type} [Encode α] : Encode (Dictionary α) where
  encode d := .object (d.entries.map fun e => (e.1, encode e.2))

instance {α : Type} [Decode α] : Decode (Dictionary α) where
  decode
    | .object members => do
      let entries ← Json.decodeMembers decode members
      pure (Dictionary.ofList entries)
    | draft => .error (Json.mismatch draft)

/-- A field with its name, left out when the flag is set. -/
def Json.memberUnless {α Hole : Type} [Encode α] (omitted : Bool) (name : String) (value : α) :
    List (String × Json Hole) :=
  if omitted then [] else [(name, encode value)]

/-- A field with its name. -/
def Json.member {α Hole : Type} [Encode α] (name : String) (value : α) : String × Json Hole :=
  (name, encode value)

/-- A name among a few fixed ones. It may also come as the only name of an object, with the
value null. -/
def Json.decodeName {α : Type} (ofName? : String → Option α) (draft : Draft) :
    Except Misread α :=
  let named := fun name =>
    match ofName? name with
    | some a => .ok a
    | none => .error .misfit
  match draft with
  | .string name => named name
  | .object [(_, .hole .key)] => .error .notJson
  | .object [(name, value)] => do
    let a ← named name
    match value with
    | .null => .ok a
    | _ => .error (mismatch value)
  | _ => .error (mismatch draft)

end ShopPayments
