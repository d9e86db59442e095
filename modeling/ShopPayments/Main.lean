import ShopPayments.Cli.Program

/-!
# Command line

Reads the files an invocation names, runs it, and prints and writes its results.
-/

namespace ShopPayments
namespace Cli

/-- What is found at a path of the file system. -/
def readFile (path : String) : IO FileContent := do
  try
    let content ← IO.FS.readFile path
    pure (.text content)
  catch e =>
    match e with
    | .noFileOrDirectory .. => pure .missing
    | _ => pure .unusable

/-- The files that an invocation reads. -/
def filesOf (i : Invocation) : List String :=
  let checkout :=
    match i.command with
    | .payload checkout => [checkout]
    | _ => []
  i.settings :: i.state.toList ++ checkout

/-- Prints how a run ended and gives its exit code. -/
def finish (ending : Ending) : IO UInt32 := do
  IO.print ending.text
  if !ending.complaint.isEmpty then IO.eprintln ending.complaint
  pure (UInt32.ofNat ending.exit)

/-- Writes a file; whether that worked. -/
def writeFile (path content : String) : IO Bool := do
  try
    IO.FS.writeFile path content
    pure true
  catch _ => pure false

/-- Runs the program on the file system. -/
def start (arguments : List String) : IO UInt32 := do
  match parse arguments with
  | .info text => finish ⟨0, text, ""⟩
  | .usageError => finish ⟨2, "", "error: unexpected arguments"⟩
  | .run i =>
    let found ← (filesOf i).mapM fun path => do pure (path, ← readFile path)
    let read := fun path => ((found.find? fun f => f.1 = path).map (·.2)).getD .missing
    match execute read i with
    | .error f => finish (failed "" f)
    | .ok ⟨text, none⟩ => finish ⟨0, text, ""⟩
    | .ok ⟨text, some (path, content)⟩ =>
      if ← writeFile path content then finish ⟨0, text, ""⟩
      else finish (failed text .fileUnusable)

end Cli
end ShopPayments

def main (arguments : List String) : IO UInt32 := ShopPayments.Cli.start arguments
