import QueryGateway.Proofs.Rejections

/-!
# What the engine receives

Every query that reaches the engine arrives as the client wrote it: its text and its operation name unchanged,
and its own variables, or those of the target if it has none of its own.  What one query of a batch has of its own
does not reach another.
-/

namespace QueryGateway.GraphQL

open Http

/-- An execution is what the engine is to receive for a query of a request with `head`, when the target gives
the variables `values`. -/
structure Receives (providers : Providers) (head : Head) (values : Option Members) (query : Query)
    (execution : Execution) : Prop where
  /-- The query has a text, and it is the one that is executed. -/
  text : query.text = some execution.query
  own : ∀ members, query.variableValues = some members → execution.variableValues = members
  inherited : query.variableValues = none → ∀ members, values = some members →
    execution.variableValues = members
  noVariables : query.variableValues = none → values = none → execution.variableValues = []
  operationName : execution.operationName = query.operationName
  context : execution.context = providers.context head
  loaders : execution.loaders = providers.loaders head

/-- The execution of a query that has a text. -/
theorem receives_execution {query : Query} {text : String} (given : query.text = some text)
    (providers : Providers) (head : Head) (values : Option Members) :
    Receives providers head values query (providers.execution head (query.inheritVariables values)) where
  text := by
    show query.text = some (query.text.getD "")
    rw [given]
    rfl
  own := by
    intro members own
    rw [Query.inheritVariables_of_some own]
    show query.variableValues.getD [] = members
    rw [own]
    rfl
  inherited := by
    intro none members given
    show (query.inheritVariables values).variableValues.getD [] = members
    rw [Query.variableValues_inheritVariables_of_none none, given]
    rfl
  noVariables := by
    intro none absent
    show (query.inheritVariables values).variableValues.getD [] = []
    rw [Query.variableValues_inheritVariables_of_none none, absent]
    rfl
  operationName := rfl
  context := rfl
  loaders := rfl

/-- The executions of queries that all have a text correspond to them one to one, in order. -/
theorem receives_all {queries : List Query} (complete : ∀ query ∈ queries, ∃ text, query.text = some text)
    (providers : Providers) (head : Head) (values : Option Members) :
    List.Forall₂ (Receives providers head values) queries
      (queries.map fun query => providers.execution head (query.inheritVariables values)) := by
  induction queries with
  | nil => exact .nil
  | cons query queries ih =>
      obtain ⟨text, given⟩ := complete query List.mem_cons_self
      exact .cons (receives_execution given providers head values)
        (ih fun other member => complete other (List.mem_cons_of_mem _ member))

/-- The engine receives exactly what the client has sent: the executions of a request that is not rejected are
those of the queries that it carries, one to one and in order, each with what it has of its own. -/
theorem engine_receives_as_sent {handler : Handler} {engine : Engine} {ordinal : Nat}
    {limit : Option Nat} {request : Request}
    (accepted : ¬(handler.handle engine ordinal limit request).IsRejected) :
    ∃ values queries, (UrlParameters.ofUri request.head.uri).variableValues = .ok values ∧
      Carries limit request queries ∧ (∀ others, Carries limit request others → others = queries) ∧
      List.Forall₂ (Receives handler.providers request.head values) queries
        ((handler.handle engine ordinal limit request).started.map Started.execution) := by
  obtain ⟨queries, executes⟩ := Handler.executes_of_not_rejected accepted
  obtain ⟨values, read, executions⟩ := executes.inherited
  refine ⟨values, queries, read, executes.carried, fun others carried => carried.unique executes.carried, ?_⟩
  rw [executions]
  exact receives_all executes.complete handler.providers request.head values

/-- A batch with variables in the target: the first query has variables of its own, though none in them. -/
def ownAndInherited : Request :=
  let batch := postedBatch [⟨some "first", some [], none⟩, ⟨some "second", none, some "Other"⟩]
  { batch with head := { batch.head with uri := ⟨"/graphql", some "variables=%7B%22deep%22:true%7D"⟩ } }

theorem plan_ownAndInherited : (Handler.new ⟨true⟩).plan none ownAndInherited =
    .ok (.batch
      [⟨"first", none, [], .request ownAndInherited.head, none⟩,
        ⟨"second", some "Other", [("deep", .bool true)], .request ownAndInherited.head, none⟩]) := by
  with_unfolding_all rfl

/-- The second query inherits the variables of the target, the first one does not. -/
theorem own_and_inherited_as_sent :
    ∃ values queries, (UrlParameters.ofUri ownAndInherited.head.uri).variableValues = .ok values ∧
      Carries none ownAndInherited queries ∧
      (∀ others, Carries none ownAndInherited others → others = queries) ∧
      List.Forall₂ (Receives Providers.standard ownAndInherited.head values) queries
        (((Handler.new ⟨true⟩).handle Engine.echo 0 none ownAndInherited).started.map
          Started.execution) :=
  engine_receives_as_sent (Handler.not_isRejected_of_plan plan_ownAndInherited)

end QueryGateway.GraphQL
