import QueryGateway.Shape.Format

/-!
# Queries

A query as a client sends it.  Each part may be absent, and an absent part differs from an empty one.
-/

namespace QueryGateway.GraphQL

open Shape

/-- A query as a client sends it. -/
structure Query where
  text : Option String
  variableValues : Option Members
  operationName : Option String

namespace Query

/-- The query that gives nothing. -/
def blank : Query := ⟨none, none, none⟩

/-- The query that gives its text only. -/
def ofText (text : String) : Query := ⟨some text, none, none⟩

/-- Replaces the variables. -/
def withVariables (query : Query) (values : Option Members) : Query :=
  { query with variableValues := values }

/-- Replaces the operation name. -/
def withOperationName (query : Query) (operationName : Option String) : Query :=
  { query with operationName }

/-- Takes variables from elsewhere if the query has none of its own. -/
def inheritVariables (query : Query) (values : Option Members) : Query :=
  { query with variableValues := query.variableValues.or values }

/-- The parts of a query, each of which may be absent or null. -/
def parts {F : Type → Type} [JsonFormat F] : Record F Query :=
  ⟨"GraphQLQuery", blank,
   [.mayGive "query" (Format.optional Format.text) fun text query => { query with text },
    .mayGive "variables" (Format.optional JsonFormat.members) fun variableValues query =>
      { query with variableValues },
    .mayGive "operationName" (Format.optional Format.text) fun operationName query =>
      { query with operationName }]⟩

/-- The shape of a query. -/
def shape {F : Type → Type} [JsonFormat F] : F Query := Format.record parts

/-- The JSON value of an optional text. -/
def optionalText : Option String → Json
  | none => .null
  | some s => .string s

/-- The JSON value of an optional object. -/
def optionalMembers : Option Members → Json
  | none => .null
  | some members => .object members

/-- The JSON value of a query: the text and the variables are always written, null when absent. -/
def toJson (query : Query) : Json :=
  .object
    ([("query", optionalText query.text), ("variables", optionalMembers query.variableValues)]
      ++ match query.operationName with
        | none => []
        | some name => [("operationName", .string name)])

@[simp] theorem inheritVariables_of_some {query : Query} {own : Members}
    (h : query.variableValues = some own) (values : Option Members) :
    query.inheritVariables values = query := by
  cases query
  cases h
  rfl

@[simp] theorem variableValues_inheritVariables_of_none {query : Query}
    (h : query.variableValues = none) (values : Option Members) :
    (query.inheritVariables values).variableValues = values := by
  simp [inheritVariables, h]

end Query

end QueryGateway.GraphQL
