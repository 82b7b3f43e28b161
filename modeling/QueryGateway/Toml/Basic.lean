import QueryGateway.Decimal.Shortest
import QueryGateway.Shape.OfTree

/-!
# TOML documents

A document as a tree of values.  Tables hold their entries in the order of their making.  A point in time is
seen as a map, of which nothing is known to anyone here.  A value may remember where it stands in the text that
it was read from, which changes nothing about what it is seen as.
-/

namespace QueryGateway

/-- A fractional number. -/
inductive Toml.Fraction where
  | finite (x : Double)
  | infinite (negative : Bool)
  | notANumber
  deriving DecidableEq, Repr

/-- A TOML value. -/
inductive Toml where
  | text (s : String)
  | whole (n : Int)
  | fraction (x : Toml.Fraction)
  | flag (b : Bool)
  /-- A date, a time, or both. -/
  | moment
  | array (items : List Toml)
  | table (entries : List (String × Toml))
  /-- A value that stands at a place of a text. -/
  | placed (span : Text.Span) (value : Toml)
  deriving Repr, Inhabited

namespace Toml

/-- The text of a fractional number. -/
def Fraction.text : Fraction → String
  | .finite x => String.ofList (x.chars .positional)
  | .infinite false => "inf"
  | .infinite true => "-inf"
  | .notANumber => "NaN"

/-- What a value shows. -/
def view : Toml → Shape.View Toml
  | text s => .text s
  | whole n => .whole n
  | fraction x => .fractional x.text
  | flag b => .flag b
  | moment => .map []
  | array items => .sequence items
  | table entries => .map entries
  | placed _ value => value.view

/-- Where a value stands, if it remembers. -/
def span? : Toml → Option Text.Span
  | placed span _ => some span
  | _ => none

/-- A key as it stands in a text. -/
structure Key where
  name : String
  span : Text.Span
  deriving DecidableEq, Repr

end Toml

instance : Shape.Tree Toml where
  view := Toml.view
  span? := Toml.span?
  exactLength := false

end QueryGateway
