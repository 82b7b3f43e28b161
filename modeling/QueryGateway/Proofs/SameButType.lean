import QueryGateway.Proofs.Precedence

/-!
# Requests that differ in their content types

Two heads may differ in nothing but their content types.  Providers and an engine are blind to the type if they read
everything else only: what they are given may hold the head, and with it the type, but nothing they do depends on it.
Under them, requests with such heads and with the same verdict are handled alike.
-/

namespace QueryGateway

open Http

namespace GraphQL

/-! ## Heads -/

/-- Two heads differ in their content types at most: in how many of them there are, in where they stand among the
other fields, and in what they say. -/
structure SameButType (head other : Head) : Prop where
  method : other.method = head.method
  uri : other.uri = head.uri
  fields : (other.headers.filter fun field => field.1 ≠ "content-type") =
    head.headers.filter fun field => field.1 ≠ "content-type"

theorem first?_filter_of_ne (headers : Headers) {name other : String} (different : name ≠ other) :
    Headers.first? (headers.filter fun field => field.1 ≠ other) name = headers.first? name := by
  unfold Headers.first?
  induction headers with
  | nil => rfl
  | cons field headers ih =>
      obtain ⟨here, value⟩ := field
      by_cases removed : here = other
      · have passed : (name == here) = false := beq_eq_false_iff_ne.mpr (removed ▸ different)
        rw [List.filter_cons_of_neg (by simpa using removed), ih, List.lookup_cons, passed]
      · rw [List.filter_cons_of_pos (by simpa using removed), List.lookup_cons, List.lookup_cons, ih]

/-- A field that is no content type has the same first value in both heads. -/
theorem SameButType.first?_eq {head other : Head} (same : SameButType head other) {name : String}
    (different : name ≠ "content-type") : other.headers.first? name = head.headers.first? name := by
  rw [← first?_filter_of_ne other.headers different, same.fields, first?_filter_of_ne head.headers different]

theorem SameButType.requestId?_eq {head other : Head} (same : SameButType head other) :
    other.requestId? = head.requestId? := by
  rw [Head.requestId?, Head.requestId?, same.first?_eq (by decide)]

/-! ## Executions -/

/-- What resolvers are given differs in the content types of a head at most. -/
inductive ResolverContext.Alike : ResolverContext → ResolverContext → Prop
  | request {head other : Head} (same : SameButType head other) :
      ResolverContext.Alike (.request head) (.request other)
  | text (s : String) : ResolverContext.Alike (.text s) (.text s)
  | number (n : Int) : ResolverContext.Alike (.number n) (.number n)

/-- Executions differ in the content types of a head at most. -/
structure Execution.Alike (execution other : Execution) : Prop where
  query : other.query = execution.query
  operationName : other.operationName = execution.operationName
  variableValues : other.variableValues = execution.variableValues
  context : execution.context.Alike other.context
  loaders : other.loaders = execution.loaders

/-- Providers are blind to the content type. -/
def Providers.IgnoreType (providers : Providers) : Prop :=
  ∀ head other, SameButType head other →
    (providers.context head).Alike (providers.context other) ∧ providers.loaders other = providers.loaders head

/-- An engine is blind to the content type. -/
def Engine.IgnoresType (engine : Engine) : Prop :=
  ∀ ordinal execution other, execution.Alike other → engine ordinal other = engine ordinal execution

theorem Providers.ignoreType_standard : Providers.standard.IgnoreType := fun _ _ same => ⟨.request same, rfl⟩

/-- The engine that reports what it was asked reads the identifier of a head, but not the type. -/
theorem Engine.ignoresType_echo : Engine.echo.IgnoresType := by
  intro ordinal execution other alike
  obtain ⟨query, operationName, variableValues, context, loaders⟩ := execution
  obtain ⟨_, _, _, otherContext, _⟩ := other
  obtain ⟨rfl, rfl, rfl, contexts, rfl⟩ := alike
  cases (contexts : context.Alike otherContext) with
  | request same => simp only [Engine.echo, same.requestId?_eq]
  | text | number => rfl

theorem Providers.IgnoreType.execution {providers : Providers} (blind : providers.IgnoreType) {head other : Head}
    (same : SameButType head other) (query : Query) :
    (providers.execution head query).Alike (providers.execution other query) :=
  ⟨rfl, rfl, rfl, (blind head other same).1, (blind head other same).2⟩

theorem Providers.IgnoreType.executions {providers : Providers} (blind : providers.IgnoreType) {head other : Head}
    (same : SameButType head other) (queries : List Query) :
    List.Forall₂ Execution.Alike (queries.map (providers.execution head))
      (queries.map (providers.execution other)) := by
  induction queries with
  | nil => exact .nil
  | cons query queries ih => exact .cons (blind.execution same query) ih

/-- An engine that is blind to the type behaves the same over executions that differ in it, one after the other. -/
theorem Engine.IgnoresType.map_behaviour_start {engine : Engine} (blind : engine.IgnoresType)
    {executions others : List Execution} (alike : List.Forall₂ Execution.Alike executions others) (ordinal : Nat) :
    (engine.start ordinal others).map Started.behaviour =
      (engine.start ordinal executions).map Started.behaviour := by
  induction alike generalizing ordinal with
  | nil => rfl
  | @cons execution other _ _ first _ ih =>
      rw [Engine.start, Engine.start, List.map_cons, List.map_cons, ih]
      exact congrArg (· :: _) (blind ordinal execution other first)

/-! ## Handlings -/

/-- Two requests, with heads of their own, are handled alike. -/
structure HandledAlike (handler : Handler) (engine : Engine) (head other : Head)
    (handling otherHandling : Handling) : Prop where
  /-- The same queries are handed to the engine, each with the head of its request. -/
  calls : ∃ queries : List Query,
    handling.started.map Started.execution = queries.map (handler.providers.execution head) ∧
      otherHandling.started.map Started.execution = queries.map (handler.providers.execution other)
  batchSize : otherHandling.batchSize = handling.batchSize
  /-- If nobody reads the content type, then the engine is handed the same but for it, and it does the same, and the
  handlings end in the same response or failure. -/
  blind : handler.providers.IgnoreType → engine.IgnoresType →
    List.Forall₂ Execution.Alike (handling.started.map Started.execution)
        (otherHandling.started.map Started.execution) ∧
      otherHandling.started.map Started.behaviour = handling.started.map Started.behaviour ∧
      otherHandling.ending = handling.ending

section

variable {handler : Handler} {limit limit' : Option Nat} {request other : Request} {verdict : Verdict}

/-- Requests on which the verdict is the same are handled alike if their heads differ in the content type only. -/
theorem Planned.handledAlike (one : Planned handler limit request verdict)
    (two : Planned handler limit' other verdict) (same : SameButType request.head other.head) (engine : Engine)
    (ordinal : Nat) :
    HandledAlike handler engine request.head other.head (handler.handle engine ordinal limit request)
      (handler.handle engine ordinal limit' other) := by
  obtain ⟨onePlan, -⟩ := one
  obtain ⟨twoPlan, -⟩ := two
  cases verdict with
  | reject status rejection =>
      rw [Handler.handle_of_rejected onePlan, Handler.handle_of_rejected twoPlan]
      exact ⟨⟨[], rfl, rfl⟩, rfl, fun _ _ => ⟨.nil, rfl, rfl⟩⟩
  | single query =>
      rw [Handler.handle_of_accepted onePlan, Handler.handle_of_accepted twoPlan]
      refine ⟨⟨[query], rfl, rfl⟩, rfl, fun providers blind => ?_⟩
      have alike := providers.execution same query
      have behaves := blind ordinal _ _ alike
      refine ⟨.cons alike .nil, congrArg ([·]) behaves, ?_⟩
      exact congrArg (fun behaviour => Ending.ofOutcome behaviour.outcome) behaves
  | batch queries =>
      rw [Handler.handle_of_accepted onePlan, Handler.handle_of_accepted twoPlan]
      refine ⟨⟨queries, engine.map_execution_start _ _, engine.map_execution_start _ _⟩, ?_, fun providers blind => ?_⟩
      · simp only [Plan.batchSize?, List.length_map]
      have alike := providers.executions same queries
      have behaves := blind.map_behaviour_start alike ordinal
      refine ⟨?_, behaves, ?_⟩
      · rw [engine.map_execution_start, engine.map_execution_start]
        exact alike
      · have outcomes := congrArg (List.map Behaviour.outcome) behaves
        rw [List.map_map, List.map_map] at outcomes
        simp only [Plan.ending, Pool.joined_eq]
        exact congrArg Ending.ofOutcomes outcomes

end

end GraphQL

end QueryGateway
