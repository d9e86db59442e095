import ShopPayments.Failure
import ShopPayments.Table
import ShopPayments.Text.Digest

/-!
# Payment methods

Payment methods are configured in a space of the payment service and stored by
the shop under an id of its own. Synchronising stores every active method of a
space and deactivates those that the space no longer offers.
-/

namespace ShopPayments

/-- Where a configured entity stands in its life. -/
inductive LifeState where
  | create
  | active
  | inactive
  | deleting
  | deleted
  deriving DecidableEq, Repr

/-- A payment method as a space configures it. -/
structure PaymentMethod where
  id : UInt64
  space : UInt64
  name : String
  state : LifeState
  sortOrder : Int32
  deriving DecidableEq

/-- A payment method as the shop stores it. -/
structure StoredMethod where
  id : String
  method : UInt64
  space : UInt64
  name : String
  sortOrder : Int32
  active : Bool
  deriving DecidableEq

namespace StoredMethod

/-- The id in the shop of a payment method of a space. -/
def idFor (space method : UInt64) : String :=
  Digest.hex (toString space.toNat ++ "_" ++ toString method.toNat)

/-- What the shop stores for an active payment method of a space. -/
def ofMethod (space : UInt64) (m : PaymentMethod) : StoredMethod :=
  ⟨idFor space m.id, m.id, space, m.name, m.sortOrder, true⟩

/-- The order in which stored methods are listed: by sort order, then by id. -/
def precedes (a b : StoredMethod) : Bool :=
  a.sortOrder < b.sortOrder || (a.sortOrder = b.sortOrder && decide (a.id ≤ b.id))

end StoredMethod

/-- The stored payment methods under their ids. -/
abbrev MethodStore := Table String StoredMethod

/-- How many methods a synchronisation found active, and how many it deactivated. -/
structure SyncReport where
  activated : Nat
  deactivated : Nat
  deriving DecidableEq, Repr

namespace MethodStore

/-- Stores a method under its id. -/
def store (s : MethodStore) (m : StoredMethod) : MethodStore := s.insert m.id m

/-- The stored methods of a space, in the order of listing. -/
def ofSpace (s : MethodStore) (space : UInt64) : List StoredMethod :=
  (s.values.filter (·.space = space)).mergeSort StoredMethod.precedes

/-- The methods to store for what a space offers. -/
def offered (space : UInt64) (methods : List PaymentMethod) : List StoredMethod :=
  (methods.filter (·.state = .active)).map (StoredMethod.ofMethod space)

/-- Whether a stored method is active although its space does not offer it. -/
def isStale (offered : List StoredMethod) (m : StoredMethod) : Bool :=
  m.active && !(offered.map (·.id)).contains m.id

/-- Brings the store in line with what a space offers. -/
def synchronize (s : MethodStore) (space : UInt64) (methods : List PaymentMethod) :
    SyncReport × MethodStore :=
  let offered := offered space methods
  let stored := offered.foldl store s
  let stale := (stored.ofSpace space).filter (isStale offered)
  let cleared := stale.foldl (fun s m => s.store { m with active := false }) stored
  (⟨offered.length, stale.length⟩, cleared)

/-- The active method behind an id of the shop. -/
def active (s : MethodStore) (id : String) : Except Failure StoredMethod :=
  match (s.get? id).filter (·.active) with
  | some m => .ok m
  | none => .error (.unknownPaymentMethod id)

end MethodStore
end ShopPayments
