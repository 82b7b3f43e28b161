import QueryGateway.CommandLine.Log
import QueryGateway.Text.Alphanumeric
import QueryGateway.Text.Blank

/-!
# Filters of log lines

A filter is written as directives with commas between them.  A directive names a level, and it may say which
lines it speaks of: those whose target starts with a text, those within a span of work, those that have a
field.  Of the directives that speak of a line the most specific one decides, and of equally specific ones the
last.  A directive that cannot be read is ignored, and the reader is told so.
-/

namespace QueryGateway.CommandLine

/-- What a directive asks of the fields of a line: that there is one of a name, and perhaps what its value is. -/
structure FieldDemand where
  name : String
  valued : Bool
  deriving DecidableEq, Repr

/-- A directive of a filter. -/
structure Directive where
  level : LogLevel
  target : Option String
  span : Option String
  field : Option FieldDemand
  deriving DecidableEq, Repr

/-- Why a directive cannot be read. -/
inductive DirectiveFault where
  | level
  | form
  deriving DecidableEq, Repr

/-- The text of a fault. -/
def DirectiveFault.message : DirectiveFault → String
  | .level =>
    "error parsing level filter: expected one of \"off\", \"error\", \"warn\", \"info\", \"debug\", "
      ++ "\"trace\", or a number 0-5"
  | .form => "invalid filter directive"

/-! ## Reading directives -/

namespace Directive

/-- The directive of a level for all lines. -/
def ofLevel (level : LogLevel) : Directive := ⟨level, none, none, none⟩

/-- What is left of a directive.  The marks between its parts are looked for in its text without the blanks around
it, and the parts are taken at the same places of its text as it is written. -/
structure Remaining where
  trimmed : List Char
  written : List Char

/-- The part before the first mark of some kind, the mark, and what is left after it. -/
def Remaining.cut? (remaining : Remaining) (isMark : Char → Bool) : Option (String × Char × Remaining) :=
  let length := (remaining.trimmed.takeWhile fun c => !isMark c).length
  match remaining.trimmed.drop length with
  | [] => none
  | mark :: trimmed =>
    some (String.ofList (remaining.written.take length), mark,
      ⟨trimmed, remaining.written.drop (length + 1)⟩)

/-- What is left after one character. -/
def Remaining.tail (remaining : Remaining) : Remaining :=
  ⟨remaining.trimmed.drop 1, remaining.written.drop 1⟩

/-- A directive whose level follows; no level at all names all of them. -/
def readLevel (directive : Directive) (remaining : Remaining) : Except DirectiveFault Directive :=
  if remaining.written.isEmpty then .ok { directive with level := .trace }
  else
    match LogLevel.ofText? (String.ofList remaining.written) with
    | some level => .ok { directive with level }
    | none => .error .level

/-- A directive after the bracket that closes its span: it is over, or its level follows. -/
def readEnd (directive : Directive) (remaining : Remaining) : Except DirectiveFault Directive :=
  match remaining.trimmed with
  | [] => .ok directive
  | '=' :: _ => directive.readLevel remaining.tail
  | _ => .error .form

/-- What a directive asks of a field. -/
def demand (part : String) : FieldDemand :=
  ⟨String.ofList (part.toList.takeWhile (· ≠ '=')), part.toList.contains '='⟩

/-- A directive after the brace that opens its field. -/
def readField (directive : Directive) (remaining : Remaining) : Except DirectiveFault Directive :=
  match remaining.cut? (· = '\x7d') with
  | none => .error .form
  | some (part, _, rest) =>
    if part.isEmpty then .error .form
    else
      match rest.trimmed with
      | ']' :: _ => readEnd { directive with field := some (demand part) } rest.tail
      | _ => .error .form

/-- A directive after the bracket that opens its span. -/
def readSpan (directive : Directive) (remaining : Remaining) : Except DirectiveFault Directive :=
  match remaining.cut? (fun c => c = ']' || c = '\x7b') with
  | none => .error .form
  | some (part, ']', rest) => readEnd { directive with span := some part } rest
  | some (part, _, rest) =>
    readField { directive with span := if part.isEmpty then none else some part } rest

/-- Whether a target may start with a character. -/
def startsTarget (c : Char) : Bool := c = '-' || c = ':' || c = '_' || Text.isAlphanumeric c

/-- The directive that a text writes.  A word alone is a level, or else a target of which all levels are shown. -/
def parse (text : String) : Except DirectiveFault Directive :=
  let remaining : Remaining := ⟨Text.trim text.toList, text.toList⟩
  let all := ofLevel .trace
  match remaining.trimmed with
  | [] => .error .form
  | '[' :: _ => all.readSpan remaining.tail
  | c :: _ =>
    if !startsTarget c then .error .form
    else
      match remaining.cut? (fun c => c = '=' || c = '[') with
      | some (target, '=', rest) => readLevel { all with target := some target } rest
      | some (target, _, rest) => readSpan { all with target := some target } rest
      | none =>
        match LogLevel.ofText? text with
        | some level => .ok (ofLevel level)
        | none => .ok { all with target := some text }

/-! ## Deciding -/

/-- Whether a directive speaks of a line.  The lines of this program stand within no span, and what a field has to
be is only looked at there. -/
def concerns (directive : Directive) (line : LogLine) : Bool :=
  directive.span.isNone
    && directive.target.all (fun target => target.isPrefixOf line.target)
    && directive.field.all fun field => !field.valued && line.fieldNames.contains field.name

/-- How specific a directive is: first by the length of its target, then by its field. -/
def specificity (directive : Directive) : Nat × Option String :=
  ((directive.target.map fun target => target.utf8ByteSize + 1).getD 0, directive.field.map FieldDemand.name)

/-- Whether a directive is at least as specific as another one. -/
def isAsSpecificAs (a b : Directive) : Bool :=
  let order := (compare a.specificity.1 b.specificity.1).then (compare a.specificity.2 b.specificity.2)
  order != .lt

end Directive

/-- A filter. -/
structure LogFilter where
  directives : List Directive
  deriving DecidableEq, Repr

namespace LogFilter

/-- The texts of the directives in the text of a filter. -/
def parts (text : String) : List String := (text.splitOn ",").filter fun part => !part.isEmpty

/-- The filter that a text writes; without any directive it shows errors. -/
def ofText (text : String) : LogFilter :=
  match (parts text).filterMap fun part => (Directive.parse part).toOption with
  | [] => ⟨[.ofLevel .error]⟩
  | directives => ⟨directives⟩

/-- What is told of the directives that are ignored. -/
def notes (text : String) : List String :=
  (parts text).filterMap fun part =>
    match Directive.parse part with
    | .ok _ => none
    | .error fault => some ("ignoring `" ++ part ++ "`: " ++ fault.message)

/-- The directive that decides about a line. -/
def decisive? (filter : LogFilter) (line : LogLine) : Option Directive :=
  (filter.directives.filter fun directive => directive.concerns line).foldl
    (fun best directive =>
      match best with
      | none => some directive
      | some other => if directive.isAsSpecificAs other then some directive else best) none

/-- Whether a line is shown. -/
def shows (filter : LogFilter) (line : LogLine) : Bool :=
  (filter.decisive? line).any fun directive => line.level.rank ≤ directive.level.rank

/-- The lines that are shown, as they are shown. -/
def shownLines (filter : LogFilter) (lines : List LogLine) : List String :=
  (lines.filter filter.shows).map LogLine.shown

end LogFilter

/-- The filter for a level, as it is written. -/
def filterText (level : String) : String :=
  "graphql_http_adapter=" ++ level ++ ",tower_http=" ++ level

end QueryGateway.CommandLine
