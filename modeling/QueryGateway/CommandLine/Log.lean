/-!
# Log lines

A line has a level, a target, a message and fields.  The message counts as a field of its own name.
-/

namespace QueryGateway.CommandLine

/-- How much a line matters; a filter may also show nothing. -/
inductive LogLevel where
  | off
  | error
  | warn
  | info
  | debug
  | trace
  deriving DecidableEq, Repr

namespace LogLevel

/-- The levels with their names, from nothing to everything. -/
def names : List (LogLevel × String) :=
  [(off, "off"), (error, "error"), (warn, "warn"), (info, "info"), (debug, "debug"), (trace, "trace")]

/-- How many levels of lines a level lets through. -/
def rank : LogLevel → Nat
  | off => 0
  | error => 1
  | warn => 2
  | info => 3
  | debug => 4
  | trace => 5

/-- The number that digits write; a plus sign may precede them. -/
def number? (cs : List Char) : Option Nat :=
  let digits :=
    match cs with
    | '+' :: rest => rest
    | _ => cs
  if digits.isEmpty || !digits.all Char.isDigit then none
  else some (digits.foldl (fun n c => n * 10 + (c.toNat - '0'.toNat)) 0)

/-- The level that a text names, by its name in any case or by its rank. -/
def ofText? (text : String) : Option LogLevel :=
  let lower := String.ofList (text.toList.map Char.toLower)
  let fits (named : LogLevel × String) : Bool :=
    match number? text.toList with
    | some n => named.1.rank = n
    | none => named.2 = lower
  (names.find? fits).map Prod.fst

end LogLevel

/-- A line of the log. -/
structure LogLine where
  level : LogLevel
  target : String
  message : String
  fields : List (String × String)
  deriving DecidableEq, Repr

namespace LogLine

/-- The names of the fields of a line. -/
def fieldNames (line : LogLine) : List String := "message" :: line.fields.map Prod.fst

/-- A line as it is shown, without its time. -/
def shown (line : LogLine) : String :=
  let name := ((LogLevel.names.lookup line.level).getD "").toUpper
  let fields := line.fields.map fun (name, value) => " " ++ name ++ "=" ++ value
  name ++ " " ++ line.target ++ ": " ++ line.message ++ String.join fields

end LogLine

end QueryGateway.CommandLine
