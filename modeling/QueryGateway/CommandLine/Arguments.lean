import QueryGateway.Text.Terminal

/-!
# Arguments

The command line knows an option for the configuration file, a switch that watches it, and a request for help.
Arguments are read from left to right, and the first fault counts; the request for help counts where it is met.
Whether the switch has the option it needs is looked at last.
-/

namespace QueryGateway.CommandLine

/-- What the arguments ask for. -/
structure Arguments where
  config : Option String
  watch : Bool
  deriving DecidableEq, Repr

/-- What the command line knows. -/
inductive Flag where
  | config
  | watch
  | help
  deriving DecidableEq, Repr

namespace Flag

/-- The flag of a long name. -/
def ofLong? : String → Option Flag
  | "config" => some .config
  | "watch" => some .watch
  | "help" => some .help
  | _ => none

/-- The flag of a short name. -/
def ofShort? : Char → Option Flag
  | 'c' => some .config
  | 'w' => some .watch
  | 'h' => some .help
  | _ => none

/-- A flag as it is shown. -/
def shown : Flag → String
  | .config => "--config <CONFIG>"
  | .watch => "--watch"
  | .help => "--help"

end Flag

/-- Why arguments are refused. -/
inductive UsageFault where
  | missingValue (flag : Flag)
  | repeated (flag : Flag)
  | unexpectedArgument (argument : String)
  | unexpectedValue (value : String) (flag : Flag)
  | missingRequired
  deriving DecidableEq, Repr

/-- The text of a fault without the hints that follow it.  What was given is told without the control sequences
of terminals in it. -/
def UsageFault.message : UsageFault → String
  | .missingValue flag => "a value is required for '" ++ flag.shown ++ "' but none was supplied"
  | .repeated flag => "the argument '" ++ flag.shown ++ "' cannot be used multiple times"
  | .unexpectedArgument argument => "unexpected argument '" ++ Text.Terminal.strip argument ++ "' found"
  | .unexpectedValue value flag =>
    "unexpected value '" ++ Text.Terminal.strip value ++ "' for '" ++ flag.shown
      ++ "' found; no more were expected"
  | .missingRequired => "the following required arguments were not provided:"

/-- Why reading the arguments ends early. -/
inductive Halt where
  | help
  | fault (fault : UsageFault)
  deriving DecidableEq, Repr

/-- Whether the option was met last, and with which value; its value is looked at when something else is met. -/
inductive Pending where
  | nothing
  | awaiting
  | given (value : String)
  deriving DecidableEq, Repr

/-- What was read so far. -/
structure Reading where
  arguments : Arguments
  pending : Pending

namespace Reading

/-- Before the first argument. -/
def start : Reading := ⟨⟨none, false⟩, .nothing⟩

/-- Takes the value of the option: it is given once and is not empty. -/
def setConfig (reading : Reading) (value : String) : Except Halt Reading :=
  if reading.arguments.config.isSome then .error (.fault (.repeated .config))
  else if value.isEmpty then .error (.fault (.missingValue .config))
  else .ok ⟨{ reading.arguments with config := some value }, .nothing⟩

/-- Finishes the option that was met last. -/
def settle (reading : Reading) : Except Halt Reading :=
  match reading.pending with
  | .nothing => .ok reading
  | .awaiting => .error (.fault (.missingValue .config))
  | .given value => reading.setConfig value

/-- Takes a flag, with the value attached to it. -/
def take (reading : Reading) (flag : Flag) (attached : Option String) : Except Halt Reading :=
  match flag, attached with
  | .config, some value => do
    let reading ← reading.settle
    reading.setConfig value
  | .config, none => do
    let reading ← reading.settle
    .ok { reading with pending := .awaiting }
  | flag, some value => .error (.fault (.unexpectedValue value flag))
  | .watch, none => do
    let reading ← reading.settle
    if reading.arguments.watch then .error (.fault (.repeated .watch))
    else .ok { reading with arguments := { reading.arguments with watch := true } }
  | .help, none => do
    let _ ← reading.settle
    .error .help

/-- Takes an argument that starts with two hyphens, without them. -/
def takeLong (reading : Reading) (written : List Char) : Except Halt Reading :=
  let name := String.ofList (written.takeWhile (· ≠ '='))
  let attached :=
    match written.dropWhile (· ≠ '=') with
    | [] => none
    | _ :: value => some (String.ofList value)
  match Flag.ofLong? name with
  | some flag => reading.take flag attached
  | none => .error (.fault (.unexpectedArgument ("--" ++ name)))

/-- Takes the short flags of one argument, without its hyphen. -/
def takeShort (reading : Reading) : List Char → Except Halt Reading
  | [] => .ok reading
  | c :: cs =>
    match Flag.ofShort? c with
    | none => .error (.fault (.unexpectedArgument (String.ofList ['-', c])))
    | some .config =>
      match cs with
      | [] => reading.take .config none
      | '=' :: value => reading.take .config (some (String.ofList value))
      | value => reading.take .config (some (String.ofList value))
    | some flag => do
      let reading ← reading.take flag none
      reading.takeShort cs

/-- Takes an argument. -/
def takeArgument (reading : Reading) (argument : String) : Except Halt Reading :=
  match argument.toList with
  | '-' :: '-' :: written => reading.takeLong written
  | '-' :: c :: written => reading.takeShort (c :: written)
  | _ =>
    if reading.pending = .awaiting then .ok { reading with pending := .given argument }
    else .error (.fault (.unexpectedArgument argument))

/-- Takes all arguments; after two hyphens alone nothing is expected. -/
def takeAll (reading : Reading) : List String → Except Halt Reading
  | [] => reading.settle
  | "--" :: rest =>
    match rest with
    | [] => reading.settle
    | argument :: _ => .error (.fault (.unexpectedArgument argument))
  | argument :: rest => do
    let reading ← reading.takeArgument argument
    reading.takeAll rest

end Reading

/-- What a list of arguments asks for. -/
def Arguments.parse (arguments : List String) : Except Halt Arguments := do
  let reading ← Reading.start.takeAll arguments
  if reading.arguments.watch && reading.arguments.config.isNone then
    .error (.fault .missingRequired)
  else .ok reading.arguments

end QueryGateway.CommandLine
