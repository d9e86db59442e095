/-!
# Command line arguments

Three options hold for every command and may stand before or after its name. An
argument that looks like an option is never taken for a value; behind two dashes
everything is a value. The first fault or the first request for help ends the
reading.
-/

namespace ShopPayments
namespace Cli

/-- A command of the program. -/
inductive Command where
  | serve (port : Nat)
  | payload (checkout : String)
  | refundable (transaction : UInt64) (channel : Option String)
  | methods (channel : Option String)
  deriving DecidableEq, Repr

/-- Names of the commands. -/
inductive CommandName where
  | serve
  | payload
  | refundable
  | methods
  deriving DecidableEq, Repr

namespace CommandName

/-- All commands, in the order of the help text. -/
def all : List CommandName := [.serve, .payload, .refundable, .methods]

/-- The name as it is typed. -/
def text : CommandName → String
  | .serve => "serve"
  | .payload => "transaction-payload"
  | .refundable => "refundable"
  | .methods => "payment-method-configuration"

/-- What a command does. -/
def about : CommandName → String
  | .serve => "Run the administrative HTTP API"
  | .payload => "Print the transaction update built for a checkout"
  | .refundable => "Print the refundable line items of a transaction as CSV"
  | .methods => "Synchronise the payment method configurations of a space"

end CommandName

/-- What the arguments ask for. -/
structure Invocation where
  settings : String
  state : Option String
  database : Option String
  command : Command
  deriving DecidableEq, Repr

/-- What comes of reading the arguments. -/
inductive Parsed where
  | run (invocation : Invocation)
  /-- Help or version, printed instead of running a command. -/
  | info (text : String)
  | usageError
  deriving DecidableEq, Repr

/-- Why reading ends before the last argument. -/
inductive Stop where
  | info (text : String)
  | usageError
  deriving DecidableEq, Repr

/-- Options with a value. -/
inductive OptionName where
  | settings
  | state
  | database
  | port
  | channel
  deriving DecidableEq, Repr

namespace OptionName

/-- The option of a name. -/
def ofName? : String → Option OptionName
  | "settings" => some .settings
  | "state" => some .state
  | "db-path" => some .database
  | "port" => some .port
  | "sales-channel" => some .channel
  | _ => none

/-- Whether an option belongs to a command, or to all of them. -/
def isKnownTo (o : OptionName) (command : Option CommandName) : Bool :=
  match o, command with
  | .port, some .serve => true
  | .port, _ => false
  | .channel, some .refundable => true
  | .channel, some .methods => true
  | .channel, _ => false
  | _, _ => true

end OptionName

/-- The value of a run of digits, optionally behind a plus, below a bound. -/
def number? (s : String) (bound : Nat) : Option Nat :=
  let digits :=
    match s.toList with
    | '+' :: rest => rest
    | cs => cs
  if digits.isEmpty || !digits.all Char.isDigit then none
  else
    let n := digits.foldl (fun n c => 10 * n + (c.toNat - '0'.toNat)) 0
    if n < bound then some n else none

/-- Values given on one level: before the command, or behind its name. -/
structure Given where
  options : List (OptionName × String)
  values : List String

namespace Given

/-- Nothing given. -/
def none : Given := ⟨[], []⟩

/-- The value of an option. -/
def get? (g : Given) (o : OptionName) : Option String :=
  (g.options.find? fun e => e.1 = o).map (·.2)

end Given

/-- The line for an option in the help texts. -/
def optionLines (command : Option CommandName) : List (String × String) :=
  let settings :=
    ("    --settings <SETTINGS>",
      "Settings file with a default section and sales channel overrides [default: settings.json]")
  let state :=
    ("    --state <STATE>", "Sandbox snapshot (JSON) loaded before and saved after the command")
  let database :=
    ("    --db-path <DB_PATH>", "Path to persistent database (optional). If provided, uses RocksDB")
  let channel := ("    --sales-channel <SALES_CHANNEL>", "")
  let port := ("    --port <PORT>", "[env: PORT=] [default: 3030]")
  let help := ("-h, --help", "Print help")
  let version := ("-V, --version", "Print version")
  match command with
  | none => [settings, state, database, help, version]
  | some .serve => [port, settings, state, database, help]
  | some .payload => [settings, state, database, help]
  | some .refundable => [channel, settings, state, database, help]
  | some .methods => [channel, settings, state, database, help]

/-- A table of names and texts, the texts in one column. -/
def columns (rows : List (String × String)) : String :=
  let width := (rows.map fun r => r.1.toList.length).foldl max 0
  let line := fun (r : String × String) =>
    let blanks := String.ofList (List.replicate (width - r.1.toList.length) ' ')
    "  " ++ r.1 ++ blanks ++ "  " ++ r.2 ++ "\n"
  (rows.map line).foldl (· ++ ·) ""

/-- What the name `help` stands for among the commands. -/
def helpAbout : String := "Print this message or the help of the given subcommand(s)"

/-- The text for help on asking for help. -/
def helpHelpText : String :=
  helpAbout ++ "\n\nUsage: planet-payment help [COMMAND]...\n\nArguments:\n"
    ++ columns [("[COMMAND]...", "Print help for the subcommand(s)")]

/-- The text for help on the program or one of its commands. -/
def helpText (command : Option CommandName) : String :=
  let options := "Options:\n" ++ columns (optionLines command)
  match command with
  | none =>
    let commands := CommandName.all.map fun c => (c.text, c.about)
    "Usage: planet-payment [OPTIONS] <COMMAND>\n\nCommands:\n"
      ++ columns (commands ++ [("help", helpAbout)]) ++ "\n" ++ options
  | some c =>
    let value :=
      match c with
      | .payload =>
        some ("<CHECKOUT>", "JSON file with `order`, `customer`, `context` and `pending`")
      | .refundable => some ("<TRANSACTION_ID>", "")
      | _ => none
    let usage := c.about ++ "\n\nUsage: planet-payment " ++ c.text ++ " [OPTIONS]"
    match value with
    | some value =>
      usage ++ " " ++ value.1 ++ "\n\nArguments:\n" ++ columns [value] ++ "\n" ++ options
    | none => usage ++ "\n\n" ++ options

/-- The text for the version. -/
def versionText : String := "planet-payment 0.1.0\n"

/-- Whether an argument looks like an option. -/
def looksLikeOption (s : String) : Bool :=
  match s.toList with
  | '-' :: _ :: _ => true
  | _ => false

/-- Whether a value fits its option. -/
def isFitting (o : OptionName) (value : String) : Bool :=
  match o with
  | .port => (number? value UInt16.size).isSome
  | .channel => true
  | _ => !value.toList.isEmpty

/-- Records the value of an option, which is given once on a level. -/
def Given.record (g : Given) (o : OptionName) (value : String) : Except Stop Given :=
  if !isFitting o value || (g.get? o).isSome then .error .usageError
  else .ok { g with options := g.options ++ [(o, value)] }

/-- Whether a positional value fits its command, which takes at most one. -/
def Given.recordValue (g : Given) (command : CommandName) (value : String) :
    Except Stop Given :=
  let fits :=
    match command with
    | .payload => !value.toList.isEmpty
    | .refundable => (number? value UInt64.size).isSome
    | _ => false
  if fits && g.values.isEmpty then .ok { g with values := [value] } else .error .usageError

/-- Reads a flag of one letter, of which the first decides. -/
def shortFlag (command : Option CommandName) (letters : List Char) : Stop :=
  match letters, command with
  | 'h' :: _, _ => .info (helpText command)
  | 'V' :: _, none => .info versionText
  | _, _ => .usageError

/-- Reads a long flag without a value. -/
def longFlag (command : Option CommandName) (name : String) : Stop :=
  if name = "help" then .info (helpText command)
  else if name = "version" && command.isNone then .info versionText
  else .usageError

/-- Splits a long option at its equals sign. -/
def splitLong (cs : List Char) : String × Option String :=
  let name := cs.takeWhile (· != '=')
  match cs.dropWhile (· != '=') with
  | _ :: value => (String.ofList name, some (String.ofList value))
  | [] => (String.ofList name, none)

/-- One argument of a level: recorded, or found to be a plain word. The result holds what is
left of the arguments. -/
def takeOption (command : Option CommandName) (g : Given) (argument : List Char)
    (rest : List String) : Except Stop (Given × List String) :=
  match argument with
  | '-' :: '-' :: long =>
    let (name, attached) := splitLong long
    match (OptionName.ofName? name).filter (·.isKnownTo command), attached, rest with
    | some o, some value, _ => do pure (← g.record o value, rest)
    | some o, none, value :: rest =>
      if looksLikeOption value then .error .usageError else do pure (← g.record o value, rest)
    | some _, none, [] => .error .usageError
    | none, some _, _ => .error .usageError
    | none, none, _ => .error (longFlag command name)
  | '-' :: letters => .error (shortFlag command letters)
  | _ => .error .usageError

/-- Reads the arguments behind a command. The first argument bounds their number. -/
def readCommand (command : CommandName) : Nat → Given → List String → Except Stop Given
  | 0, g, _ => .ok g
  | _, g, [] => .ok g
  | count + 1, g, argument :: rest =>
    if argument = "--" then rest.foldlM (fun g value => g.recordValue command value) g
    else if looksLikeOption argument then do
      let (g, rest) ← takeOption (some command) g argument.toList rest
      readCommand command count g rest
    else do
      let g ← g.recordValue command argument
      readCommand command count g rest

/-- What the values given on both levels ask for. Behind the command they win. -/
def invocation (outer inner : Given) (command : CommandName) : Except Stop Invocation :=
  let get := fun o => inner.get? o <|> outer.get? o
  let built := fun c =>
    ⟨(get .settings).getD "settings.json", get .state, get .database, c⟩
  match command, inner.values with
  | .serve, _ =>
    .ok (built (.serve (((get .port).bind fun p => number? p UInt16.size).getD 3030)))
  | .payload, [checkout] => .ok (built (.payload checkout))
  | .refundable, [id] =>
    match number? id UInt64.size with
    | some id => .ok (built (.refundable (UInt64.ofNat id) (get .channel)))
    | none => .error .usageError
  | .methods, _ => .ok (built (.methods (get .channel)))
  | _, _ => .error .usageError

/-- The command of a name. -/
def CommandName.ofText? (s : String) : Option CommandName :=
  CommandName.all.find? fun c => c.text = s

/-- The text for a request for help by name. -/
def helpFor : List String → Stop
  | [] => .info (helpText none)
  | [name] =>
    if name = "help" then .info helpHelpText
    else
      match CommandName.ofText? name with
      | some c => .info (helpText (some c))
      | none => .usageError
  | _ => .usageError

/-- Reads the arguments up to the command and beyond. The first argument bounds their number. -/
def readProgram : Nat → Given → List String → Except Stop Invocation
  | 0, _, _ => .error .usageError
  | _, _, [] => .error .usageError
  | count + 1, g, argument :: rest =>
    if argument = "--" then .error .usageError
    else if looksLikeOption argument then do
      let (g, rest) ← takeOption none g argument.toList rest
      readProgram count g rest
    else if argument = "help" then .error (helpFor rest)
    else
      match CommandName.ofText? argument with
      | some command => do
        let inner ← readCommand command (rest.length + 1) .none rest
        invocation g inner command
      | none => .error .usageError

/-- Reads the arguments of the program. -/
def parse (arguments : List String) : Parsed :=
  match readProgram (arguments.length + 1) .none arguments with
  | .ok invocation => .run invocation
  | .error (.info text) => .info text
  | .error .usageError => .usageError

end Cli
end ShopPayments
