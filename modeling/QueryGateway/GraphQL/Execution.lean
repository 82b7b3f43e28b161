import QueryGateway.GraphQL.Envelope
import QueryGateway.GraphQL.Failure
import QueryGateway.GraphQL.Loaders
import QueryGateway.GraphQL.Query
import QueryGateway.Http.Message

/-!
# Executions

What an engine is given to execute, and how an engine behaves.  What resolvers are given besides the query
comes from a pair of providers, which see the head of the request.
-/

namespace QueryGateway.GraphQL

open Http

/-- The object that resolvers are given. -/
inductive ResolverContext where
  /-- The head of the request itself. -/
  | request (head : Head)
  | text (s : String)
  | number (n : Int)
  deriving DecidableEq, Repr

/-- What a query is executed with. -/
structure Execution where
  query : String
  operationName : Option String
  variableValues : Members
  context : ResolverContext
  loaders : Option LoaderRegistry

/-! ## Providers -/

/-- Makes the object for resolvers from the head of a request. -/
abbrev ContextProvider := Head → ResolverContext

/-- Makes the loaders for a query from the head of a request. -/
abbrev LoaderProvider := Head → Option LoaderRegistry

/-- Without another provider resolvers are given the head of the request. -/
def ContextProvider.request : ContextProvider := ResolverContext.request

/-- Gives resolvers the identifier of the request, or a text in its place. -/
def ContextProvider.requestId (otherwise : String) : ContextProvider :=
  fun head => .text (head.requestId?.getD otherwise)

/-- Gives resolvers one text. -/
def ContextProvider.constant (s : String) : ContextProvider := fun _ => .text s

/-- Gives resolvers one number. -/
def ContextProvider.number (n : Int) : ContextProvider := fun _ => .number n

/-- Without another provider there are no loaders. -/
def LoaderProvider.nothing : LoaderProvider := fun _ => none

/-- Gives a loader under each of some keys. -/
def LoaderProvider.keys (keys : List String) : LoaderProvider := fun _ => some (.ofKeys keys)

/-- Gives a loader under the identifier of the request. -/
def LoaderProvider.requestId : LoaderProvider := fun head => LoaderRegistry.ofKey? head.requestId?

/-- The providers of a handler. -/
structure Providers where
  context : ContextProvider
  loaders : LoaderProvider

namespace Providers

/-- The providers of a new handler. -/
def standard : Providers := ⟨ContextProvider.request, LoaderProvider.nothing⟩

/-- The execution of a query of a request. -/
def execution (providers : Providers) (head : Head) (query : Query) : Execution :=
  ⟨query.text.getD "", query.operationName, query.variableValues.getD [], providers.context head,
    providers.loaders head⟩

end Providers

/-! ## Engines -/

/-- How an execution ends. -/
inductive Outcome where
  | result (result : ExecutionResult)
  | failure (failure : EngineFailure)
  | panic (message : String)

/-- Whether an execution ends in a panic. -/
def Outcome.isPanic : Outcome → Bool
  | .panic _ => true
  | _ => false

/-- How an execution goes: how long it takes, in milliseconds, and how it ends. -/
structure Behaviour where
  delay : Nat
  outcome : Outcome

/-- An engine: how an execution goes that is preceded by a number of others. -/
abbrev Engine := Nat → Execution → Behaviour

namespace Engine

/-- The engine resolves nothing and reports what it was asked. -/
def echo (listing : Listing := .ascending) : Engine := fun _ execution =>
  let requestId :=
    match execution.context with
    | .request head => head.requestId?
    | _ => none
  let keys := (execution.loaders.map (LoaderRegistry.sortedKeys · listing)).getD []
  ⟨0, .result (.ofData (.object
    [("loaders", .array (keys.map .string)),
     ("operationName", Query.optionalText execution.operationName),
     ("query", .string execution.query),
     ("requestId", Query.optionalText requestId),
     ("variables", .object execution.variableValues)]))⟩

/-- A rule of a scripted engine: how the executions of one query go. -/
structure Rule where
  query : String
  delay : Nat
  /-- Without an outcome the result tells the query. -/
  outcome : Option Outcome

/-- The result that tells the query. -/
def plainResult (query : String) : ExecutionResult := .ofData (.object [("query", .string query)])

/-- The engine that goes by the first rule for a query; without one it tells the query. -/
def scripted (rules : List Rule) : Engine := fun _ execution =>
  match rules.find? fun rule => rule.query == execution.query with
  | none => ⟨0, .result (plainResult execution.query)⟩
  | some rule => ⟨rule.delay, rule.outcome.getD (.result (plainResult execution.query))⟩

end Engine

end QueryGateway.GraphQL
