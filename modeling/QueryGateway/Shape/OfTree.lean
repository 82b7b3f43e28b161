import QueryGateway.Json.Printer
import QueryGateway.Shape.Format

/-!
# Shapes in trees

A document that is already read as a tree: a JSON value, or a value of another notation.  Maps are visited
in the order of their entries, and the first mismatch counts.  It is told where the part that does not fit
stands: under which names, and at which place of the text if the tree remembers places.
-/

namespace QueryGateway.Shape

/-- What a tree shows at its root. -/
inductive View (δ : Type) where
  | null
  | flag (b : Bool)
  | whole (n : Int)
  | fractional (written : String)
  | text (s : String)
  | sequence (items : List δ)
  | map (entries : List (String × δ))

/-- What a mismatch says of a view. -/
def View.found {δ : Type} : View δ → Found
  | .null => .null
  | .flag b => .flag b
  | .whole n => .whole n
  | .fractional written => .fractional written
  | .text s => .text s
  | .sequence _ => .sequence
  | .map _ => .map

/-- A kind of tree. -/
class Tree (δ : Type) where
  /-- What a tree shows at its root. -/
  view : δ → View δ
  /-- Where a tree stands in its text, if it remembers. -/
  span? : δ → Option Text.Span
  /-- Whether a sequence that is longer than its record is a mismatch. -/
  exactLength : Bool

/-- A reader of a shape from a tree. -/
structure TreeReader (δ : Type) (α : Type) where
  run : δ → Except Misfit α

/-- The failure of a tree that does not fit. -/
def misfit {δ α : Type} [Tree δ] (d : δ) (mismatch : Mismatch) : Except Misfit α :=
  .error ⟨mismatch, [], Tree.span? d⟩

namespace TreeReader

variable {δ : Type} [Tree δ] {α β : Type}

/-- Applies a function to what is read. -/
def map (f : α → β) (reader : TreeReader δ α) : TreeReader δ β where
  run d := (reader.run d).map f

/-- The mismatch of a tree that is not what is expected. -/
def unexpected (expected : String) (d : δ) : Except Misfit α :=
  misfit d (.unexpected (Tree.view d).found expected)

/-- A text. -/
def text : TreeReader δ String where
  run d :=
    match Tree.view d with
    | .text s => .ok s
    | _ => unexpected "a string" d

/-- A truth value. -/
def flag : TreeReader δ Bool where
  run d :=
    match Tree.view d with
    | .flag b => .ok b
    | _ => unexpected "a boolean" d

/-- A word that a function makes of a whole number in its range. -/
def word (fit? : Int → Option α) (name : String) : TreeReader δ α where
  run d :=
    match Tree.view d with
    | .whole n =>
      match fit? n with
      | some a => .ok a
      | none => misfit d (.outOfRange n name)
    | _ => unexpected name d

/-- A value or null. -/
def optional (reader : TreeReader δ α) : TreeReader δ (Option α) where
  run d :=
    match Tree.view d with
    | .null => .ok none
    | _ => (reader.run d).map some

/-- A list. -/
def list (reader : TreeReader δ α) : TreeReader δ (List α) where
  run d :=
    match Tree.view d with
    | .sequence items => items.mapM reader.run
    | _ => unexpected "a sequence" d

/-- The entries of a record in `whole`: the names given so far and the record so far go along. -/
def recordEntries (r : Record (TreeReader δ) α) (whole : δ) (given : List String) (a : α) :
    List (String × δ) → Except Misfit α
  | [] =>
    match r.missing? given with
    | some name => misfit whole (.missingField name)
    | none => .ok a
  | (name, d) :: entries =>
    match r.field? name with
    | some field =>
      if given.contains name then misfit whole (.repeatedField name)
      else do
        let change ← (field.read.run d).mapError (Misfit.under name)
        recordEntries r whole (name :: given) (change a) entries
    | none => recordEntries r whole given a entries

/-- The fields of a record in `whole` from `index` on, and the items that are left for them. -/
def recordItems (r : Record (TreeReader δ) α) (whole : δ) (length index : Nat) (a : α) :
    List (Field (TreeReader δ) α) → List δ → Except Misfit α
  | [], [] => .ok a
  | [], _ :: _ =>
    if Tree.exactLength δ then misfit whole (.wrongLength length "fewer elements in array") else .ok a
  | field :: fields, [] =>
    match (field :: fields).findIdx? Field.required with
    | some more => misfit whole (.wrongLength (index + more) r.expectedLength)
    | none => .ok a
  | field :: fields, d :: items => do
    let change ← field.read.run d
    recordItems r whole length (index + 1) (change a) fields items

/-- A record, from a map or from a sequence. -/
def record (r : Record (TreeReader δ) α) : TreeReader δ α where
  run d :=
    match Tree.view d with
    | .sequence items => recordItems r d items.length 0 r.blank r.fields items
    | .map entries => recordEntries r d [] r.blank entries
    | _ => unexpected r.expected d

instance : Format (TreeReader δ) where
  map := map
  text := text
  flag := flag
  word32 := word word32?
  word64 := word word64?
  optional := optional
  list := list
  record := record

end TreeReader

/-! ## JSON values as trees -/

instance : Tree Json where
  view
    | .null => .null
    | .bool b => .flag b
    | .number (.whole n) => .whole n.val
    | .number (.double x) => .fractional (String.ofList (x.chars Json.doubleLayout))
    | .string s => .text s
    | .array items => .sequence items
    | .object members => .map members
  span? _ := none
  exactLength := true

mutual

/-- A value in which every object with an embedded document is replaced by that document. -/
def unpack : Json → Except Mismatch Json
  | .array items => (unpackItems items).map .array
  | .object [] => .ok (.object [])
  | .object ((name, value) :: members) =>
    if name = Json.embeddedName then
      match value with
      | .string s =>
        match Json.parse (Bytes.ofString s) with
        | .error e => .error (.unreadable e.message)
        | .ok inner =>
          if members.isEmpty then .ok inner
          else .error (.wrongLength (members.length + 1) "fewer elements in map")
      | value => .error (.unexpected (Tree.view value).found "raw value")
    else do
      let value ← unpack value
      let members ← unpackMembers members
      .ok (.object ((name, value) :: members))
  | value => .ok value

/-- The items of a list, each unpacked. -/
def unpackItems : List Json → Except Mismatch (List Json)
  | [] => .ok []
  | item :: items => do
    let item ← unpack item
    let items ← unpackItems items
    .ok (item :: items)

/-- The members of an object, each value unpacked. -/
def unpackMembers : List (String × Json) → Except Mismatch (List (String × Json))
  | [] => .ok []
  | (name, value) :: members => do
    let value ← unpack value
    let members ← unpackMembers members
    .ok ((name, value) :: members)

end

instance : JsonFormat (TreeReader Json) where
  any := ⟨fun value => (unpack value).mapError fun mismatch => ⟨mismatch, [], none⟩⟩
  members := ⟨fun value =>
    match value with
    | .object members => (unpackMembers members).mapError fun mismatch => ⟨mismatch, [], none⟩
    | value => TreeReader.unexpected "a map" value⟩
  alternative name answer? := ⟨fun value =>
    match answer? value with
    | some a => .ok a
    | none => misfit value (.noAlternative name)⟩

end QueryGateway.Shape
