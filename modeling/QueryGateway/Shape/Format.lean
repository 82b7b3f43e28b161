import QueryGateway.Json.Basic
import QueryGateway.Shape.Mismatch

/-!
# Shapes and formats

A shape is described once and read from every kind of document.  `Format` lists what a kind of document
can be read as; a reader of shape `α` is a polymorphic value `F α`.  A record is read from a map, where
unknown names are ignored and absent fields keep their value in the blank record, or from a sequence of its
fields in order.
-/

namespace QueryGateway.Shape

/-- One field of a record: reading it gives the change that it makes to the record. -/
structure Field (F : Type → Type) (α : Type) where
  name : String
  required : Bool
  read : F (α → α)

/-- A record: its name, the record that nothing was given for, and its fields in order. -/
structure Record (F : Type → Type) (α : Type) where
  name : String
  blank : α
  fields : List (Field F α)

namespace Record

variable {F : Type → Type} {α : Type}

/-- What a mismatch says is expected in place of the record. -/
def expected (r : Record F α) : String := "struct " ++ r.name

/-- What a mismatch says is expected in place of a sequence that is too short. -/
def expectedLength (r : Record F α) : String :=
  r.expected ++ " with " ++ toString r.fields.length
    ++ (if r.fields.length = 1 then " element" else " elements")

/-- The field of a name. -/
def field? (r : Record F α) (name : String) : Option (Field F α) :=
  r.fields.find? fun f => f.name == name

/-- The first required field that was not given. -/
def missing? (r : Record F α) (given : List String) : Option String :=
  (r.fields.find? fun f => f.required && !given.contains f.name).map Field.name

end Record

/-- A kind of document. -/
class Format (F : Type → Type) where
  /-- Applies a function to what is read. -/
  map {α β : Type} : (α → β) → F α → F β
  /-- A text. -/
  text : F String
  /-- A truth value. -/
  flag : F Bool
  /-- A 32-bit word, with the name that a mismatch gives it. -/
  word32 : String → F UInt32
  /-- A 64-bit word, with the name that a mismatch gives it. -/
  word64 : String → F UInt64
  /-- A value or null. -/
  optional {α : Type} : F α → F (Option α)
  /-- A sequence. -/
  list {α : Type} : F α → F (List α)
  /-- A record. -/
  record {α : Type} : Record F α → F α

/-- A kind of document that also holds any JSON value. -/
class JsonFormat (F : Type → Type) extends Format F where
  /-- Any value. -/
  any : F Json
  /-- Any object. -/
  members : F Members
  /-- Any value for which the function has an answer; the name of the alternatives stands in the mismatch. -/
  alternative {α : Type} : String → (Json → Option α) → F α

/-- A field that may be absent. -/
def Field.mayGive {F : Type → Type} [Format F] {α β : Type} (name : String) (reader : F β)
    (set : β → α → α) : Field F α :=
  ⟨name, false, Format.map set reader⟩

/-- A field that a map must give. -/
def Field.mustGive {F : Type → Type} [Format F] {α β : Type} (name : String) (reader : F β)
    (set : β → α → α) : Field F α :=
  ⟨name, true, Format.map set reader⟩

/-- The 64-bit word of a whole number in its range. -/
def word64? (n : Int) : Option UInt64 :=
  if 0 ≤ n ∧ n < 18446744073709551616 then some (UInt64.ofNat n.toNat) else none

/-- The 32-bit word of a whole number in its range. -/
def word32? (n : Int) : Option UInt32 :=
  if 0 ≤ n ∧ n < 4294967296 then some (UInt32.ofNat n.toNat) else none

end QueryGateway.Shape
