import ShopPayments.Json.Printer
import ShopPayments.Snapshot
import ShopPayments.Transaction.Codec

/-!
# Snapshots as JSON

The fields of a snapshot, and the text of its file.
-/

namespace ShopPayments

open Json (member)
open Shape (required defaulted)

instance : Encode LifeState where
  encode
    | .create => .string "CREATE"
    | .active => .string "ACTIVE"
    | .inactive => .string "INACTIVE"
    | .deleting => .string "DELETING"
    | .deleted => .string "DELETED"

/-- The state of an entity of a name. -/
def LifeState.ofName? : String → Option LifeState
  | "CREATE" => some .create
  | "ACTIVE" => some .active
  | "INACTIVE" => some .inactive
  | "DELETING" => some .deleting
  | "DELETED" => some .deleted
  | _ => none

instance : Decode LifeState := ⟨Json.decodeName LifeState.ofName?⟩

instance : Encode PaymentMethod where
  encode m := .object [
    member "id" m.id,
    member "linked_space_id" m.space,
    member "name" m.name,
    member "state" m.state,
    member "sort_order" m.sortOrder]

instance : Decode PaymentMethod where
  decode := Shape.run <|
    PaymentMethod.mk <$> required "id" <*> required "linked_space_id" <*> required "name"
      <*> required "state" <*> defaulted "sort_order" 0

instance : Encode StoredMethod where
  encode m := .object [
    member "id" m.id,
    member "payment_method_configuration_id" m.method,
    member "space_id" m.space,
    member "name" m.name,
    member "sort_order" m.sortOrder,
    member "active" m.active]

instance : Decode StoredMethod where
  decode := Shape.run <|
    StoredMethod.mk <$> required "id" <*> required "payment_method_configuration_id"
      <*> required "space_id" <*> required "name" <*> required "sort_order"
      <*> required "active"

instance : Encode Snapshot where
  encode s := .object [
    member "transactions" s.transactions,
    member "refunds" s.refunds,
    member "payment_method_configurations" s.methods,
    member "configurations" s.stored,
    member "refund_sequence" s.sequence]

instance : Decode Snapshot where
  decode := Shape.run <|
    Snapshot.mk <$> defaulted "transactions" [] <*> defaulted "refunds" []
      <*> defaulted "payment_method_configurations" [] <*> defaulted "configurations" []
      <*> defaulted "refund_sequence" 0

namespace Snapshot

/-- The text of the file of a snapshot. -/
def fileText (s : Snapshot) : String := Json.pretty (encode s) ++ "\n"

/-- Reads a snapshot from the text of its file; without a file nothing has happened yet. -/
def load (content : Option String) : Except Failure Snapshot :=
  match content with
  | none => .ok empty
  | some text =>
    match Json.parse text with
    | .ok s => .ok s
    | .error _ => .error .malformed

end Snapshot

/-- The state after it was written to a file and read again. -/
def Sandbox.reload (s : Sandbox) : Except Failure Sandbox := do
  let snapshot ← Snapshot.load (some s.capture.fileText)
  pure snapshot.restore

end ShopPayments
