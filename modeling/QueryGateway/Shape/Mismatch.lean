import QueryGateway.Text.Quoted
import QueryGateway.Text.Span

/-!
# Mismatches

Why a document does not have the expected shape.  The kinds of documents differ only in how they write a
fractional number, so a mismatch carries that text.  A misfit is a mismatch of a part of a document.
-/

namespace QueryGateway.Shape

/-- What a document holds at a place. -/
inductive Found where
  | null
  | flag (b : Bool)
  | whole (n : Int)
  | fractional (written : String)
  | text (s : String)
  | sequence
  | map
  deriving DecidableEq, Repr

/-- The text of what was found. -/
def Found.message : Found → String
  | .null => "null"
  | .flag b => "boolean `" ++ toString b ++ "`"
  | .whole n => "integer `" ++ toString n ++ "`"
  | .fractional written => "floating point `" ++ written ++ "`"
  | .text s => "string " ++ Text.quote s
  | .sequence => "sequence"
  | .map => "map"

/-- Why a document does not have the expected shape. -/
inductive Mismatch where
  /-- A value of another kind. -/
  | unexpected (found : Found) (expected : String)
  /-- A whole number outside the range of the expected word. -/
  | outOfRange (n : Int) (expected : String)
  /-- A required field is absent. -/
  | missingField (name : String)
  /-- A field is given twice. -/
  | repeatedField (name : String)
  /-- A sequence of the wrong length. -/
  | wrongLength (length : Nat) (expected : String)
  /-- None of the alternatives of a value fits. -/
  | noAlternative (name : String)
  /-- The document that stands in a string cannot be read. -/
  | unreadable (message : String)
  deriving DecidableEq, Repr

/-- The text of a mismatch. -/
def Mismatch.message : Mismatch → String
  | .unexpected found expected => "invalid type: " ++ found.message ++ ", expected " ++ expected
  | .outOfRange n expected => "invalid value: integer `" ++ toString n ++ "`, expected " ++ expected
  | .missingField name => "missing field `" ++ name ++ "`"
  | .repeatedField name => "duplicate field `" ++ name ++ "`"
  | .wrongLength length expected => "invalid length " ++ toString length ++ ", expected " ++ expected
  | .noAlternative name => "data did not match any variant of untagged enum " ++ name
  | .unreadable message => message

/-- A mismatch of a part of a document: the names on the way to the part, and where it stands in the text, if
that is known. -/
structure Misfit where
  mismatch : Mismatch
  path : List String
  span : Option Text.Span
  deriving DecidableEq, Repr

/-- A misfit of the value of a name. -/
def Misfit.under (name : String) (misfit : Misfit) : Misfit := { misfit with path := name :: misfit.path }

end QueryGateway.Shape
