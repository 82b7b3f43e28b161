import QueryGateway.Shape.OfText

/-!
# Results and their envelopes

The result of an execution: data, errors of fields, extensions.  Its envelope is the JSON object that a client
receives; absent data differs from null, and an absent list of path segments from an empty one.
-/

namespace QueryGateway.GraphQL

open Shape

/-- A place in a query text. -/
structure Location where
  line : UInt32
  column : UInt32
  deriving DecidableEq, Repr

/-- A step of a path into a result. -/
inductive PathSegment where
  | field (name : String)
  | index (n : UInt64)
  deriving DecidableEq, Repr

/-- An error of a field. -/
structure FieldError where
  message : String
  locations : List Location
  path : Option (List PathSegment)
  extensions : Option Members

/-- The result of an execution. -/
structure ExecutionResult where
  data : Option Json
  errors : List FieldError
  extensions : Option Members

/-- The result that holds data only. -/
def ExecutionResult.ofData (data : Json) : ExecutionResult := ⟨some data, [], none⟩

/-! ## Shapes -/

section

variable {F : Type → Type} [JsonFormat F]

/-- The shape of a place. -/
def Location.shape : F Location :=
  Format.record
    ⟨"Location", ⟨0, 0⟩,
     [.mustGive "line" (Format.word32 "u32") fun line place => { place with line },
      .mustGive "column" (Format.word32 "u32") fun column place => { place with column }]⟩

/-- The step that a JSON value stands for. -/
def PathSegment.ofJson? : Json → Option PathSegment
  | .string name => some (.field name)
  | .number (.whole n) => (word64? n.val).map .index
  | _ => none

/-- The shape of a step. -/
def PathSegment.shape : F PathSegment := JsonFormat.alternative "PathSegment" PathSegment.ofJson?

/-- The shape of an error. -/
def FieldError.shape : F FieldError :=
  Format.record
    ⟨"GraphQLError", ⟨"", [], none, none⟩,
     [.mustGive "message" Format.text fun message error => { error with message },
      .mayGive "locations" (Format.list Location.shape) fun locations error => { error with locations },
      .mayGive "path" (Format.optional (Format.list PathSegment.shape)) fun path error =>
        { error with path },
      .mayGive "extensions" (Format.optional JsonFormat.members) fun extensions error =>
        { error with extensions }]⟩

end

/-! ## Envelopes -/

/-- The JSON value of a word. -/
def wordJson (n : UInt64) : Json := .number (.whole (.ofWord n))

/-- The JSON value of a place. -/
def Location.toJson (place : Location) : Json :=
  .object [("column", wordJson place.column.toUInt64), ("line", wordJson place.line.toUInt64)]

/-- The JSON value of a step. -/
def PathSegment.toJson : PathSegment → Json
  | .field name => .string name
  | .index n => wordJson n

/-- The member of a name, if there is a value for it. -/
def member (name : String) : Option Json → Members
  | none => []
  | some value => [(name, value)]

/-- The JSON value of an error: no member for what is absent, nor for an empty list of places. -/
def FieldError.toJson (error : FieldError) : Json :=
  .object
    (member "extensions" (error.extensions.map .object)
      ++ (if error.locations.isEmpty then [] else
            [("locations", .array (error.locations.map Location.toJson))])
      ++ [("message", .string error.message)]
      ++ member "path" (error.path.map fun path => .array (path.map PathSegment.toJson)))

/-- The envelope of a result: no member for what is absent, nor for an empty list of errors. -/
def ExecutionResult.toJson (result : ExecutionResult) : Json :=
  .object
    (member "data" result.data
      ++ (if result.errors.isEmpty then [] else
            [("errors", .array (result.errors.map FieldError.toJson))])
      ++ member "extensions" (result.extensions.map .object))

end QueryGateway.GraphQL
