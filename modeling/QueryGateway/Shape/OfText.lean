import QueryGateway.Json.Printer
import QueryGateway.Shape.Format

/-!
# Shapes in JSON texts

A shape is read while the text is read, so the first fault in the order of the text counts, be it in the
grammar or in the shape.  Values of unknown names are skipped.  A mismatch that belongs to a whole list or
record is placed where that list or record can be left.
-/

namespace QueryGateway.Shape

open Json

/-- A reader of a shape from the start of a text; the number is how deep the text may still be nested. -/
structure TextReader (α : Type) where
  run : Nat → Bytes → Reading (α × Bytes)

namespace TextReader

variable {α β : Type}

/-- Applies a function to what is read. -/
def map (f : α → β) (reader : TextReader α) : TextReader β where
  run depth bs := do
    let (a, rest) ← reader.run depth bs
    .ok (f a, rest)

/-! ## Scalars -/

/-- A text. -/
def text : TextReader String where
  run _ bs := expectString "a string" bs

/-- A truth value. -/
def flag : TextReader Bool where
  run _ bs :=
    match skipBlanks bs with
    | 0x74 :: rest => do
      let rest ← readWord [0x72, 0x75, 0x65] rest
      .ok (true, rest)
    | 0x66 :: rest => do
      let rest ← readWord [0x61, 0x6C, 0x73, 0x65] rest
      .ok (false, rest)
    | rest => unexpectedValue "a boolean" rest

/-- A number where a word is expected. -/
def readWordNumber (name : String) (bs : Bytes) : Reading (Number × Bytes) :=
  match skipBlanks bs with
  | [] => unexpectedValue name []
  | 0x2D :: rest => readNumber true rest
  | b :: rest =>
    if isDigitOctet b then readNumber false (b :: rest) else unexpectedValue name (b :: rest)

/-- A word that a function makes of a whole number in its range. -/
def word (fit? : Int → Option α) (name : String) : TextReader α where
  run _ bs := do
    let (n, rest) ← readWordNumber name bs
    match n with
    | .double _ => mismatchHere (.unexpected (Number.found n) name) rest
    | .whole whole =>
      match fit? whole.val with
      | some a => .ok (a, rest)
      | none => mismatchHere (.outOfRange whole.val name) rest

/-- A value or null. -/
def optional (reader : TextReader α) : TextReader (Option α) where
  run depth bs :=
    match skipBlanks bs with
    | 0x6E :: rest => do
      let rest ← readWord [0x75, 0x6C, 0x6C] rest
      .ok (none, rest)
    | _ => do
      let (a, rest) ← reader.run depth bs
      .ok (some a, rest)

/-! ## Lists -/

/-- The place where a list is left after a mismatch found before `bs`. -/
def listExit (bs : Bytes) : Nat :=
  match skipBlanks bs with
  | 0x5D :: rest => rest.length
  | 0x2C :: rest => (skipBlanks rest).length
  | rest => rest.length

/-- The place where an object is left after a mismatch found before `bs`. -/
def objectExit (bs : Bytes) : Nat :=
  match skipBlanks bs with
  | 0x7D :: rest => rest.length
  | rest => rest.length

/-- Gives a failure that has no place yet the place where the value around it is left. -/
def settle (exit : Bytes → Nat) (result : Reading α) : Reading α :=
  match result with
  | .error (.pending reason rest) => .error (.located reason (exit rest))
  | result => result

/-- The items of a list after the first. -/
def items (reader : TextReader α) (depth : Nat) : Nat → Bytes → Reading (List α × Bytes)
  | 0, _ => faultNext .missingValue []
  | fuel + 1, bs => do
    match ← nextItem bs with
    | .done rest => .ok ([], rest)
    | .more rest =>
      let (a, rest) ← reader.run depth rest
      let (as, rest) ← items reader depth fuel rest
      .ok (a :: as, rest)

/-- The items of a list after its opening bracket. -/
def firstItems (reader : TextReader α) (depth : Nat) (bs : Bytes) : Reading (List α × Bytes) := do
  match ← firstItem bs with
  | .done rest => .ok ([], rest)
  | .more rest =>
    let (a, rest) ← reader.run depth rest
    let (as, rest) ← items reader depth (fuelFor rest) rest
    .ok (a :: as, rest)

/-- A list. -/
def list (reader : TextReader α) : TextReader (List α) where
  run depth bs :=
    match skipBlanks bs with
    | 0x5B :: rest =>
      if depth ≤ 1 then faultNext .tooDeep (0x5B :: rest)
      else settle listExit (firstItems reader (depth - 1) rest)
    | rest => unexpectedValue "a sequence" rest

/-! ## Records -/

/-- One member of a record after the quote that opens its name: the names given so far, the record so far,
and the octets after the member. -/
def recordMember (r : Record TextReader α) (depth : Nat) (given : List String) (a : α) (bs : Bytes) :
    Reading ((List String × α) × Bytes) := do
  let (name, rest) ← readString bs
  match r.field? name with
  | some field =>
    if given.contains name then .error (.located (.shape (.repeatedField name)) (objectExit rest))
    else
      let rest ← readColon rest
      let (change, rest) ← field.read.run depth rest
      .ok ((name :: given, change a), rest)
  | none =>
    let rest ← readColon rest
    let rest ← skipValue (fuelFor rest) rest
    .ok ((given, a), rest)

/-- The record at the end of its map: every required field must have been given. -/
def finishRecord (r : Record TextReader α) (given : List String) (a : α) (rest : Bytes) :
    Reading (α × Bytes) :=
  match r.missing? given with
  | some name => mismatchHere (.missingField name) rest
  | none => .ok (a, rest)

/-- The members of a record after the first. -/
def recordMembers (r : Record TextReader α) (depth : Nat) :
    Nat → List String → α → Bytes → Reading (α × Bytes)
  | 0, _, _, _ => faultNext .missingValue []
  | fuel + 1, given, a, bs => do
    match ← nextMember bs with
    | .done rest => finishRecord r given a rest
    | .more rest =>
      let ((given, a), rest) ← recordMember r depth given a rest
      recordMembers r depth fuel given a rest

/-- A record after the opening brace of its map. -/
def recordMap (r : Record TextReader α) (depth : Nat) (bs : Bytes) : Reading (α × Bytes) := do
  match ← firstMember bs with
  | .done rest => finishRecord r [] r.blank rest
  | .more rest =>
    let ((given, a), rest) ← recordMember r depth [] r.blank rest
    recordMembers r depth (fuelFor rest) given a rest

/-- The record at the end of its sequence, the fields from `index` on not being given. -/
def finishSequence (r : Record TextReader α) (index : Nat) (a : α) (rest : Bytes) :
    Reading (α × Bytes) :=
  match (r.fields.drop index).findIdx? Field.required with
  | some more => mismatchHere (.wrongLength (index + more) r.expectedLength) rest
  | none => .ok (a, rest)

/-- The fields of a record from `index` on, in its sequence. -/
def recordItems (r : Record TextReader α) (depth : Nat) (index : Nat) (a : α) :
    List (Field TextReader α) → Bytes → Reading (α × Bytes)
  | [], bs => do
    let rest ← closeList bs
    .ok (a, rest)
  | field :: fields, bs => do
    match ← if index = 0 then firstItem bs else nextItem bs with
    | .done rest => finishSequence r index a rest
    | .more rest =>
      let (change, rest) ← field.read.run depth rest
      recordItems r depth (index + 1) (change a) fields rest

/-- A record, from a map or from a sequence. -/
def record (r : Record TextReader α) : TextReader α where
  run depth bs :=
    match skipBlanks bs with
    | 0x5B :: rest =>
      if depth ≤ 1 then faultNext .tooDeep (0x5B :: rest)
      else settle listExit (recordItems r (depth - 1) 0 r.blank r.fields rest)
    | 0x7B :: rest =>
      if depth ≤ 1 then faultNext .tooDeep (0x7B :: rest)
      else settle objectExit (recordMap r (depth - 1) rest)
    | rest => unexpectedValue r.expected rest

/-! ## Any values -/

/-- Any value. -/
def any : TextReader Json where
  run depth bs := readValue true (fuelFor bs) depth bs

/-- The members of an object after its opening brace. -/
def firstMembers (depth : Nat) (bs : Bytes) : Reading (Members × Bytes) := do
  match ← firstMember bs with
  | .done rest => .ok ([], rest)
  | .more rest =>
    let (name, rest) ← readName rest
    let (value, rest) ← readValue true (fuelFor rest) depth rest
    readMembers true (fuelFor rest) depth [(name, value)] rest

/-- Any object. -/
def members : TextReader Members where
  run depth bs :=
    match skipBlanks bs with
    | 0x7B :: rest =>
      if depth ≤ 1 then faultNext .tooDeep (0x7B :: rest) else firstMembers (depth - 1) rest
    | rest => unexpectedValue "a map" rest

/-- Any value for which the function has an answer. -/
def alternative (name : String) (answer? : Json → Option α) : TextReader α where
  run depth bs := do
    let (value, rest) ← readValue false (fuelFor bs) depth bs
    match answer? value with
    | some a => .ok (a, rest)
    | none => .error (.pending (.shape (.noAlternative name)) rest)

instance : JsonFormat TextReader where
  map := map
  text := text
  flag := flag
  word32 := word word32?
  word64 := word word64?
  optional := optional
  list := list
  record := record
  any := any
  members := members
  alternative := alternative

/-- The shape that a whole text holds. -/
def parse (reader : TextReader α) (bs : Bytes) : Except Error α :=
  let result := do
    let (a, rest) ← reader.run depthLimit bs
    let _ ← readEnd rest
    .ok a
  match result with
  | .ok a => .ok a
  | .error failure => .error (failure.error bs)

end TextReader

end QueryGateway.Shape
