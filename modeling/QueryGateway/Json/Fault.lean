import QueryGateway.Shape.Mismatch
import QueryGateway.Text.Utf8

/-!
# Faults of JSON texts

Why a JSON text cannot be read, and where.  While a text is read, a place is the number of octets that are
still to come; `Failure.error` turns it into a line and a column of the whole text.
-/

namespace QueryGateway.Json

/-- A violation of the grammar. -/
inductive SyntaxFault where
  | unclosedString
  | unclosedList
  | unclosedObject
  | missingValue
  | expectedColon
  | expectedListSeparator
  | expectedObjectSeparator
  | expectedWord
  | expectedValue
  | invalidEscape
  | invalidNumber
  | numberOutOfRange
  | invalidCodePoint
  | controlCharacter
  | keyNotString
  | loneSurrogate
  | trailingComma
  | trailingCharacters
  | unfinishedEscape
  | tooDeep
  deriving DecidableEq, Repr

/-- The text of a violation. -/
def SyntaxFault.message : SyntaxFault → String
  | .unclosedString => "EOF while parsing a string"
  | .unclosedList => "EOF while parsing a list"
  | .unclosedObject => "EOF while parsing an object"
  | .missingValue => "EOF while parsing a value"
  | .expectedColon => "expected `:`"
  | .expectedListSeparator => "expected `,` or `]`"
  | .expectedObjectSeparator => "expected `,` or `\x7d`"
  | .expectedWord => "expected ident"
  | .expectedValue => "expected value"
  | .invalidEscape => "invalid escape"
  | .invalidNumber => "invalid number"
  | .numberOutOfRange => "number out of range"
  | .invalidCodePoint => "invalid unicode code point"
  | .controlCharacter => "control character (\\u0000-\\u001F) found while parsing a string"
  | .keyNotString => "key must be a string"
  | .loneSurrogate => "lone leading surrogate in hex escape"
  | .trailingComma => "trailing comma"
  | .trailingCharacters => "trailing characters"
  | .unfinishedEscape => "unexpected end of hex escape"
  | .tooDeep => "recursion limit exceeded"

/-- Why a text or a value cannot be read. -/
inductive Reason where
  | grammar (fault : SyntaxFault)
  | shape (mismatch : Shape.Mismatch)
  deriving DecidableEq, Repr

/-- The text of a reason. -/
def Reason.message : Reason → String
  | .grammar fault => fault.message
  | .shape mismatch => mismatch.message

/-- A place in a text: the line, counted from one, and the octets read of it. -/
structure Position where
  line : Nat
  column : Nat
  deriving DecidableEq, Repr

/-- The place after one more octet. -/
def Position.step (p : Position) (b : UInt8) : Position :=
  if b = 0x0A then ⟨p.line + 1, 0⟩ else ⟨p.line, p.column + 1⟩

/-- The place at the end of some octets. -/
def Position.after (bs : Bytes) : Position := bs.foldl Position.step ⟨1, 0⟩

/-- A reason, with its place when a text was read. -/
structure Error where
  reason : Reason
  position : Option Position
  deriving DecidableEq, Repr

/-- The text of an error. -/
def Error.message (e : Error) : String :=
  match e.position with
  | none => e.reason.message
  | some p =>
    e.reason.message ++ " at line " ++ toString p.line ++ " column " ++ toString p.column

/-- A failure while a text is read. -/
inductive Failure where
  /-- At the place where `left` octets are still to come. -/
  | located (reason : Reason) (left : Nat)
  /-- Found at `rest`; the place is where the enclosing list or record can be left. -/
  | pending (reason : Reason) (rest : Bytes)
  /-- An error of a text inside the text. -/
  | settled (error : Error)

/-- The error of a failure, in the text that was read. -/
def Failure.error (input : Bytes) : Failure → Error
  | .located reason left => ⟨reason, some (Position.after (input.take (input.length - left)))⟩
  | .pending reason rest =>
    ⟨reason, some (Position.after (input.take (input.length - rest.length)))⟩
  | .settled error => error

/-- The result of reading from a text. -/
abbrev Reading := Except Failure

/-- A violation at the place before `rest`. -/
def faultHere {α : Type} (fault : SyntaxFault) (rest : Bytes) : Reading α :=
  .error (.located (.grammar fault) rest.length)

/-- A violation by the first octet of `rest`: the place is after that octet, if there is one. -/
def faultNext {α : Type} (fault : SyntaxFault) (rest : Bytes) : Reading α :=
  .error (.located (.grammar fault) (rest.length - 1))

/-- A mismatch at the place before `rest`. -/
def mismatchHere {α : Type} (mismatch : Shape.Mismatch) (rest : Bytes) : Reading α :=
  .error (.located (.shape mismatch) rest.length)

end QueryGateway.Json
