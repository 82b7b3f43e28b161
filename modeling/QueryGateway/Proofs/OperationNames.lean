import QueryGateway.Proofs.Precedence

/-!
# The names of operations

The target of a request may name the operation that is to be executed.  A query in the target, and one that is the
text of a body, is executed under that name.  A JSON document that is one query is executed under the name that it
gives itself, and under no name if it gives none: it inherits the variables of the target, but not the name.
-/

namespace QueryGateway.GraphQL

open Http Shape

/-! ## Names -/

/-- A request brings a JSON document that is one query, and the document gives itself a name or none. -/
inductive NamesItself (limit : Option Nat) (request : Request) : Option String → Prop
  | intro {octets : Bytes} {members : Members} {own : Option String}
      (brings : Brings limit request MediaType.json octets) (read : Json.parse octets = .ok (.object members))
      (written : WritesText (members.get? "operationName") own) : NamesItself limit request own

/-- The name under which a request is executed if names are inherited as variables are: the one that its document
gives itself, or else that of the target. -/
inductive InheritsName (limit : Option Nat) (request : Request) : Option String → Prop
  | own {name : String} (itself : NamesItself limit request (some name)) : InheritsName limit request (some name)
  | target (unnamed : ∀ name, ¬NamesItself limit request (some name)) :
      InheritsName limit request (UrlParameters.ofUri request.head.uri).operationName

section

variable {limit : Option Nat} {request : Request} {own other : Option String}

theorem NamesItself.unique (first : NamesItself limit request own) (second : NamesItself limit request other) :
    own = other := by
  obtain ⟨brings, read, written⟩ := first
  obtain ⟨brings', read', written'⟩ := second
  cases brings.value_unique read brings' read'
  exact written.unique written'

/-- A document without a name gives way to the target. -/
theorem NamesItself.inheritsName_iff (itself : NamesItself limit request own) :
    InheritsName limit request own ↔ ¬(own = none ∧ (UrlParameters.ofUri request.head.uri).operationName ≠ none) := by
  constructor
  · rintro inherits ⟨rfl, named⟩
    generalize same : (none : Option String) = name at inherits
    cases inherits with
    | own => cases same
    | target => exact named same.symm
  · intro kept
    cases own with
    | some name => exact .own itself
    | none =>
        have unnamed : (UrlParameters.ofUri request.head.uri).operationName = none :=
          not_not.mp fun named => kept ⟨rfl, named⟩
        rw [← unnamed]
        exact .target fun name named => nomatch itself.unique named

end

/-! ## Executions of one query -/

/-- A handling hands one query to the engine, and not as a batch. -/
structure Handling.ExecutesAlone (handling : Handling) (execution : Execution) : Prop where
  noBatch : handling.batchSize = none
  only : handling.started.map Started.execution = [execution]

section

variable {handler : Handler} {engine : Engine} {ordinal : Nat} {limit : Option Nat} {request : Request}
  {execution : Execution}

theorem Handler.plan_of_executesAlone
    (alone : (handler.handle engine ordinal limit request).ExecutesAlone execution) :
    handler.plan limit request = .ok (.single execution) := by
  obtain ⟨noBatch, only⟩ := alone
  cases decided : handler.plan limit request with
  | error rejection =>
      rw [handle_of_rejected decided] at only
      cases only
  | ok plan =>
      rw [handle_of_accepted decided] at noBatch only
      cases plan with
      | single executed =>
          cases only
          rfl
      | batch executions => cases noBatch

/-- A list is never planned as one query. -/
theorem Brings.plan_ne_single {octets : Bytes} {items : List Json} {values : Option Members}
    (brings : Brings limit request MediaType.json octets) (read : Json.parse octets = .ok (.array items))
    (given : TargetVariables request.head.uri values) : handler.plan limit request ≠ .ok (.single execution) := by
  have asks : AsksInBody request values := ⟨brings.method, brings.target, given⟩
  rw [asks.plan_json brings.contentType, Handler.readBody, brings.body]
  intro planned
  obtain ⟨payload, payloadRead, planned⟩ := bind_eq_ok (show (Payload.ofBytes octets >>= _) = _ from planned)
  rw [Payload.ofBytes, read] at payloadRead
  obtain ⟨queries, -, rfl⟩ := map_eq_ok (show (Payload.fit _ _).map Payload.batch = _ from payloadRead)
  rw [Handler.planPayload] at planned
  split at planned
  · cases planned
  · obtain ⟨_, -, other⟩ := map_eq_ok planned
    cases other

/-- A query that is executed alone has the name that its document gives itself, or that of the target if it is in no
document. -/
theorem Handler.operationName_of_plan (planned : handler.plan limit request = .ok (.single execution)) :
    NamesItself limit request execution.operationName ∨
      (∀ own, ¬NamesItself limit request own) ∧
        execution.operationName = (UrlParameters.ofUri request.head.uri).operationName := by
  obtain ⟨queries, carried, -, values, valuesRead, executions⟩ := executes_of_plan planned
  obtain ⟨query, rfl⟩ : ∃ query, queries = [query] := by
    have length := congrArg List.length executions
    rw [List.length_map] at length
    exact List.length_eq_one_iff.mp length.symm
  have name : execution.operationName = query.operationName :=
    congrArg Execution.operationName (List.cons.inj executions).1
  rw [name]
  generalize same : [query] = carriedQueries at carried
  cases carried with
  | target method asked =>
      cases same
      exact Or.inr ⟨fun own ⟨brings, _, _⟩ => brings.not_target asked, rfl⟩
  | text brings =>
      cases same
      exact Or.inr ⟨fun own ⟨brings', _, _⟩ => brings.not_text_and_json brings', rfl⟩
  | object brings read written =>
      cases same
      cases written with
      | object text variableValues operationName => exact Or.inl ⟨brings, read, operationName⟩
  | batch brings read written =>
      rcases targetVariables_cases request with ⟨values, given⟩ | ⟨_, _, _, given, -, faulty, -⟩
      · exact absurd planned (brings.plan_ne_single read given)
      · cases valuesRead.symm.trans (variableValues_of_fault given faulty)

/-- The name under which the engine is handed a query that is no part of a batch.  If the query is a JSON document
then the name is the one that the document gives itself, and there is none if it gives none; otherwise the name is
that of the target.  So names are inherited as variables are, except that a document without a name does not inherit
one. -/
theorem operationName_of_query_alone
    (alone : (handler.handle engine ordinal limit request).ExecutesAlone execution) :
    (∀ own, NamesItself limit request own → execution.operationName = own) ∧
      ((∀ own, ¬NamesItself limit request own) →
        execution.operationName = (UrlParameters.ofUri request.head.uri).operationName) ∧
      (InheritsName limit request execution.operationName ↔
        ¬(NamesItself limit request none ∧ (UrlParameters.ofUri request.head.uri).operationName ≠ none)) := by
  rcases Handler.operationName_of_plan (Handler.plan_of_executesAlone alone) with itself | ⟨nothing, name⟩
  · refine ⟨fun own other => itself.unique other, fun nothing => absurd itself (nothing _), ?_⟩
    rw [itself.inheritsName_iff]
    refine not_congr (and_congr_left fun _ => ⟨fun none => none ▸ itself, fun none => itself.unique none⟩)
  · refine ⟨fun own itself => absurd itself (nothing own), fun _ => name, ?_⟩
    rw [name]
    exact ⟨fun _ itself => nothing _ itself.1, fun _ => .target fun own => nothing _⟩

end

/-! ## A document without a name -/

/-- A target that names an operation, and a document that is one query without a name. -/
def namedInTarget : Request :=
  ⟨⟨"POST", ⟨"/graphql", some "operationName=Url"⟩, []⟩, .whole (Bytes.ofString (Query.ofText "{a}").toJson.text)⟩

/-- What a new handler hands to the engine for `namedInTarget`. -/
def unnamedExecution : Execution := ⟨"{a}", none, [], .request namedInTarget.head, none⟩

theorem executesAlone_namedInTarget (engine : Engine) :
    ((Handler.new ⟨false⟩).handle engine 0 none namedInTarget).ExecutesAlone unnamedExecution := by
  have planned : (Handler.new ⟨false⟩).plan none namedInTarget = .ok (.single unnamedExecution) := by
    with_unfolding_all rfl
  rw [Handler.handle_of_accepted planned]
  exact ⟨rfl, rfl⟩

theorem namesItself_namedInTarget : NamesItself none namedInTarget none := by
  refine @NamesItself.intro none namedInTarget (Bytes.ofString (Query.ofText "{a}").toJson.text)
    [("query", .string "{a}"), ("variables", .null)] none ⟨rfl, ?_, rfl, ?_⟩ ?_ .absent
  all_goals with_unfolding_all rfl

theorem target_namedInTarget : (UrlParameters.ofUri namedInTarget.head.uri).operationName = some "Url" := by
  with_unfolding_all rfl

/-- The document is executed without a name, though the target has one. -/
theorem unnamed_beside_named_target :
    (UrlParameters.ofUri namedInTarget.head.uri).operationName = some "Url" ∧
      unnamedExecution.operationName = none ∧
      ¬InheritsName none namedInTarget unnamedExecution.operationName := by
  obtain ⟨own, -, inherits⟩ := operationName_of_query_alone (executesAlone_namedInTarget Engine.echo)
  refine ⟨target_namedInTarget, own none namesItself_namedInTarget, fun inherited => ?_⟩
  refine inherits.mp inherited ⟨namesItself_namedInTarget, ?_⟩
  rw [target_namedInTarget]
  exact nofun

/-- Not every query that is executed alone inherits the name of the target. -/
theorem name_not_inherited :
    ¬∀ (handler : Handler) (engine : Engine) (request : Request) (execution : Execution),
      (handler.handle engine 0 none request).ExecutesAlone execution →
        InheritsName none request execution.operationName := by
  intro all
  have inherits := all _ Engine.echo _ _ (executesAlone_namedInTarget Engine.echo)
  refine namesItself_namedInTarget.inheritsName_iff.mp inherits ⟨rfl, ?_⟩
  rw [target_namedInTarget]
  exact nofun

end QueryGateway.GraphQL
