import ShopPayments.Checkout
import ShopPayments.Cli.Arguments
import ShopPayments.Cli.Directory
import ShopPayments.Order.Codec
import ShopPayments.Refund.Csv
import ShopPayments.Settings.Codec
import ShopPayments.Snapshot.Codec

/-!
# The program

A run reads the settings, then the snapshot if one is named, and carries out its
command. Only the synchronisation of payment methods writes the snapshot back,
after it has printed its report.
-/

namespace ShopPayments
namespace Cli

/-- What a command prints, and the file that it writes. -/
structure Output where
  text : String
  file : Option (String × String)
  deriving DecidableEq, Repr

/-- How a run ends: exit code, printed text and complaint. -/
structure Ending where
  exit : Nat
  text : String
  complaint : String
  deriving DecidableEq, Repr

/-- The text of a file that has to be there. -/
def needed (content : FileContent) : Except Failure String :=
  match content with
  | .text text => .ok text
  | .missing => .error .fileMissing
  | .unusable => .error .fileUnusable

/-- The text of a file, if it is there. -/
def possible (content : FileContent) : Except Failure (Option String) :=
  match content with
  | .text text => .ok (some text)
  | .missing => .ok none
  | .unusable => .error .fileUnusable

/-- The state named by an invocation; an empty one if none is named. -/
def sandboxOf (read : String → FileContent) (path : Option String) : Except Failure Sandbox :=
  match path with
  | none => .ok .empty
  | some path => do
    let content ← possible (read path)
    let snapshot ← Snapshot.load content
    pure snapshot.restore

/-- Prints the update built for a checkout. -/
def printPayload (read : String → FileContent) (file : SettingsFile) (sandbox : Sandbox)
    (path : String) : Except Failure Output := do
  let content ← needed (read path)
  match (Json.parse content : Except Misread Checkout) with
  | .error _ => throw .malformed
  | .ok checkout =>
    let payload ← checkout.prepare file sandbox.store
    pure ⟨Json.pretty (encode payload) ++ "\n", none⟩

/-- Prints what is left to refund of a transaction. -/
def printRefundable (file : SettingsFile) (sandbox : Sandbox) (id : UInt64)
    (channel : Option String) : Except Failure Output := do
  let settings ← file.resolve channel
  let t ← sandbox.gateway.transaction settings.spaceId id
  let rows ← sandbox.gateway.report settings.spaceId t
  pure ⟨Csv.report rows, none⟩

/-- The line printed after a synchronisation. -/
def syncLine (space : UInt64) (report : SyncReport) : String :=
  "Payment method configurations of space " ++ toString space.toNat ++ " synchronized: "
    ++ toString report.activated ++ " active, " ++ toString report.deactivated
    ++ " deactivated\n"

/-- Synchronises the payment methods of a space, and writes the snapshot if one is named. -/
def synchronize (file : SettingsFile) (sandbox : Sandbox) (channel : Option String)
    (state : Option String) : Except Failure Output := do
  let settings ← file.resolve channel
  let space := settings.spaceId
  let (report, store) := sandbox.store.synchronize space (sandbox.gateway.methodsOf space)
  let after : Sandbox := { sandbox with store }
  pure ⟨syncLine space report, state.map fun path => (path, after.capture.fileText)⟩

/-- Carries out an invocation. -/
def execute (read : String → FileContent) (i : Invocation) : Except Failure Output := do
  let content ← needed (read i.settings)
  let file ← SettingsFile.load (some content)
  let sandbox ← sandboxOf read i.state
  match i.command with
  | .payload checkout => printPayload read file sandbox checkout
  | .refundable id channel => printRefundable file sandbox id channel
  | .methods channel => synchronize file sandbox channel i.state
  | .serve _ => throw .notServed

/-- How a run ends that failed. -/
def failed (text : String) (f : Failure) : Ending :=
  match f with
  | .overflow _ => ⟨101, text, f.message⟩
  | _ => ⟨1, text, "Error: " ++ f.message⟩

/-- Runs the program in a directory. -/
def run (d : Directory) (arguments : List String) : Ending × Directory :=
  match parse arguments with
  | .info text => (⟨0, text, ""⟩, d)
  | .usageError => (⟨2, "", "error: unexpected arguments"⟩, d)
  | .run i =>
    match execute d.read i with
    | .error f => (failed "" f, d)
    | .ok ⟨text, none⟩ => (⟨0, text, ""⟩, d)
    | .ok ⟨text, some (path, content)⟩ =>
      match d.write? path content with
      | some after => (⟨0, text, ""⟩, after)
      | none => (failed text .fileUnusable, d)

end Cli
end ShopPayments
