import ShopPayments.Json.Codec

/-!
# Shapes of structures

A shape lists the fields of a structure in their order and says how the structure
is built from them. It decodes an object in two passes: the first one checks the
members as they stand in the text, the second one builds the value.
-/

namespace ShopPayments

/-- The drafts found for the fields. In an array a missing field may only be filled in by a
default, in an object also by the absence that an optional field means. -/
structure Slots where
  find? : String → Option Draft
  named : Bool

/-- How a structure is read: its fields, and its value from what was found for them. -/
structure Shape (α : Type) where
  fields : List (String × (Draft → Except Misread Unit))
  build : Slots → Except Misread α

namespace Shape

variable {α β : Type}

instance : Functor Shape where
  map f s := ⟨s.fields, fun slots => f <$> s.build slots⟩

instance : Seq Shape where
  seq f s := ⟨f.fields ++ (s ()).fields, fun slots => f.build slots <*> (s ()).build slots⟩

/-- Decodes a field for its faults alone. -/
def check (decodeOne : Draft → Except Misread α) (draft : Draft) : Except Misread Unit :=
  (fun _ => ()) <$> decodeOne draft

/-- A field that has to be there. -/
def required [Decode α] (name : String) : Shape α where
  fields := [(name, check (decode (α := α)))]
  build slots :=
    match slots.find? name with
    | some draft => decode draft
    | none => .error .misfit

/-- A field that an object may leave out. -/
def optional [Decode α] (name : String) : Shape (Option α) where
  fields := [(name, check (decode (α := Option α)))]
  build slots :=
    match slots.find? name with
    | some draft => decode draft
    | none => if slots.named then .ok none else .error .misfit

/-- A field with a value for its absence. -/
def defaulted [Decode α] (name : String) (value : α) : Shape α where
  fields := [(name, check (decode (α := α)))]
  build slots :=
    match slots.find? name with
    | some draft => decode draft
    | none => .ok value

/-- The check of a field among the known ones. -/
def field? (fields : List (String × (Draft → Except Misread Unit))) (name : String) :
    Option (Draft → Except Misread Unit) :=
  (fields.find? fun f => f.1 = name).map (·.2)

/-- Checks the members of an object in their order; the first argument holds the names of the
fields met so far. -/
def checkMembers (fields : List (String × (Draft → Except Misread Unit))) :
    List String → List (String × Draft) → Except Misread Unit
  | _, [] => .ok ()
  | met, (name, value) :: rest =>
    match field? fields name with
    | none => do
      Json.skipMember value
      checkMembers fields met rest
    | some checkOne =>
      if met.contains name then .error .misfit
      else do
        checkOne value
        checkMembers fields (name :: met) rest

/-- Checks the elements of an array against the fields in their order. An array that goes on
behind the last field is not JSON to this shape. -/
def checkElements :
    List (String × (Draft → Except Misread Unit)) → List Draft → Except Misread Unit
  | _, [] => .ok ()
  | [], _ :: _ => .error .notJson
  | (_, checkOne) :: fields, value :: rest => do
    checkOne value
    checkElements fields rest

/-- Reads a structure. -/
def run (s : Shape α) (draft : Draft) : Except Misread α :=
  match draft with
  | .object members => do
    checkMembers s.fields [] members
    s.build ⟨fun name => Json.lookup? name members, true⟩
  | .array elements => do
    checkElements s.fields elements
    let named := (s.fields.map (·.1)).zip elements
    s.build ⟨fun name => Json.lookup? name named, false⟩
  | _ => .error (Json.mismatch draft)

end Shape
end ShopPayments
