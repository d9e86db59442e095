import ShopPayments.Decimal.Text
import ShopPayments.Text

/-!
# Failures

Everything that can go wrong between an order and a booked refund, one
constructor a cause, and the text of each.
-/

namespace ShopPayments

/-- A property of a request that the payment service would turn down. -/
inductive Violation where
  | missing (property : String)
  | tooLong (property : String) (limit : Nat)
  | tooShort (property : String) (limit : Nat)
  deriving DecidableEq, Repr

/-- The wording of a violation. -/
def Violation.message : Violation → String
  | .missing property => "'" ++ property ++ "' can't be null"
  | .tooLong property limit =>
    "invalid value for '" ++ property
      ++ "', the character length must be smaller than or equal to " ++ toString limit ++ "."
  | .tooShort property limit =>
    "invalid value for '" ++ property
      ++ "', the character length must be bigger than or equal to " ++ toString limit ++ "."

/-- A setting without which nothing can be done. -/
inductive NeededSetting where
  | spaceId
  | userId
  | applicationKey
  deriving DecidableEq, Repr

/-- The wording for a setting. -/
def NeededSetting.text : NeededSetting → String
  | .spaceId => "space id"
  | .userId => "user id"
  | .applicationKey => "application key"

/-- A cause of failure. -/
inductive Failure where
  | invalid (entity : String) (violations : List Violation)
  | unknownItem (id : String)
  | totalMismatch (itemTotal orderTotal : Decimal)
  | refundsUnsupported (transaction : UInt64)
  | unknownTransaction (transaction : UInt64)
  | unknownPaymentMethod (id : String)
  | notConfigured (setting : NeededSetting)
  | amountNotPositive
  | exceedsRefundable (amount available : Decimal) (transaction : UInt64)
  | fileMissing
  | fileUnusable
  | malformed
  /-- The command that answers requests over a port is not part of the program. -/
  | notServed
  | overflow (operation : Overflow)
  deriving DecidableEq

namespace Failure

/-- The wording of a failure. -/
def message : Failure → String
  | .invalid entity violations =>
    entity ++ " payload invalid: " ++ Text.join ", " (violations.map Violation.message)
  | .unknownItem id => "Line item doesn't exist: " ++ id
  | .totalMismatch itemTotal orderTotal =>
    "LineItems total " ++ itemTotal.text ++ " does not add up to order total " ++ orderTotal.text
  | .refundsUnsupported transaction =>
    "Payment method does not support online refunds for transaction: "
      ++ toString transaction.toNat
  | .unknownTransaction transaction => "Transaction not found: " ++ toString transaction.toNat
  | .unknownPaymentMethod id =>
    "No payment method configuration for payment method: " ++ id
  | .notConfigured setting => "Settings error: " ++ setting.text ++ " is not configured"
  | .amountNotPositive => "Validation error: Amount must be positive"
  | .exceedsRefundable amount available transaction =>
    "Gateway error: refund amount " ++ amount.text ++ " exceeds refundable amount "
      ++ available.text ++ " of transaction " ++ toString transaction.toNat
  | .fileMissing => "IO error: No such file or directory (os error 2)"
  | .fileUnusable => "IO error"
  | .malformed => "JSON error"
  | .notServed => "Serving is not available"
  | .overflow operation => operation.message

/-- The failure of a computation that left the range of decimals. -/
def ofOverflow {α : Type} (result : Except Overflow α) : Except Failure α :=
  match result with
  | .ok a => .ok a
  | .error operation => .error (.overflow operation)

end Failure

instance : MonadLift (Except Overflow) (Except Failure) := ⟨Failure.ofOverflow⟩

/-- Values that the payment service checks before it takes them. -/
class Validated (α : Type) where
  entity : String
  violations : α → List Violation

/-- The value, if the payment service would take it. -/
def ensureValid {α : Type} [Validated α] (a : α) : Except Failure α :=
  match Validated.violations a with
  | [] => .ok a
  | violations => .error (.invalid (Validated.entity α) violations)

/-- Whether the payment service would take the value. -/
def isValid {α : Type} [Validated α] (a : α) : Bool := (Validated.violations a).isEmpty

namespace Violation

/-- A text that has to be there. -/
def needs (property : String) (value : String) : List Violation :=
  if Text.isEmpty value then [.missing property] else []

/-- A condition on a property, which counts as missing without it. -/
def check (property : String) (holds : Bool) : List Violation :=
  if holds then [] else [.missing property]

/-- A text of at most so many characters, if it is there. -/
def atMost (property : String) (limit : Nat) (value : Option String) : List Violation :=
  match value with
  | some s => if limit < Text.size s then [.tooLong property limit] else []
  | none => []

/-- A text of at least so many characters, if it is there. -/
def atLeast (property : String) (limit : Nat) (value : Option String) : List Violation :=
  match value with
  | some s => if Text.size s < limit then [.tooShort property limit] else []
  | none => []

end Violation
end ShopPayments
