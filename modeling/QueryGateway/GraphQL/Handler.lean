import QueryGateway.GraphQL.Options
import QueryGateway.GraphQL.Payload
import QueryGateway.GraphQL.Pool
import QueryGateway.GraphQL.UrlParameters

/-!
# Handling a request

A request is first decided: it is rejected, or it becomes a plan of executions.  The executions of a plan are
then started in order, those of a batch as a pool of tasks, and the answer is put together from their outcomes
when the last one has ended: of a batch, in the order of the queries, whatever the order of the ends.
-/

namespace QueryGateway.GraphQL

open Http

/-- What a request asks to execute. -/
inductive Plan where
  | single (execution : Execution)
  | batch (executions : List Execution)

namespace Plan

/-- The executions in the order in which they start. -/
def executions : Plan → List Execution
  | .single execution => [execution]
  | .batch executions => executions

/-- The number of queries of a batch. -/
def batchSize? : Plan → Option Nat
  | .single _ => none
  | .batch executions => some executions.length

end Plan

/-- What decides about requests: the options, and the providers for executions. -/
structure Handler where
  options : Options
  providers : Providers

/-- A new handler. -/
def Handler.new (options : Options) : Handler := ⟨options, .standard⟩

/-! ## Changes -/

/-- A change of a handler between requests. -/
inductive HandlerChange where
  | options (options : Options)
  | context (provider : ContextProvider)
  | loaders (provider : LoaderProvider)

/-- The handler after a change. -/
def Handler.change (handler : Handler) : HandlerChange → Handler
  | .options options => { handler with options }
  | .context context => { handler with providers := { handler.providers with context } }
  | .loaders loaders => { handler with providers := { handler.providers with loaders } }

/-! ## Decision -/

namespace Handler

/-- The plan of the query in the target of a request. -/
def planQuery (handler : Handler) (head : Head) (parameters : UrlParameters) (text : String)
    (values : Option Members) : Plan :=
  let query := ((Query.ofText text).withVariables values).withOperationName parameters.operationName
  .single (handler.providers.execution head query)

theorem planQuery_eq (handler : Handler) (head : Head) (parameters : UrlParameters) (text : String)
    (values : Option Members) :
    handler.planQuery head parameters text values =
      .single (handler.providers.execution head ⟨some text, values, parameters.operationName⟩) := rfl

/-- The plan of a request that may only use its target. -/
def planGet (handler : Handler) (head : Head) : Except Rejection Plan :=
  let parameters := UrlParameters.ofUri head.uri
  match parameters.query with
  | none => .error .queryMissing
  | some text => do
    let values ← parameters.variableValues
    .ok (handler.planQuery head parameters text values)

/-- The octets of a body. -/
def readBody (limit : Option Nat) (body : Body) : Except Rejection Bytes :=
  match Body.collect limit body with
  | .ok octets => .ok octets
  | .error .tooLarge => .error .payloadTooLarge
  | .error (.broken detail) => .error (.bodyUnreadable detail)

/-- The queries of a batch, each with a text and with the variables that it inherits. -/
def completeQueries (values : Option Members) : List Query → Except Rejection (List Query)
  | [] => .ok []
  | query :: queries =>
    if query.text.isNone then .error .queryMissing
    else (completeQueries values queries).map (query.inheritVariables values :: ·)

/-- The plan of a payload. -/
def planPayload (handler : Handler) (head : Head) (values : Option Members) :
    Payload → Except Rejection Plan
  | .single query =>
    if query.text.isNone then .error .queryMissing
    else .ok (.single (handler.providers.execution head (query.inheritVariables values)))
  | .batch queries =>
    if !handler.options.batching then .error .batchingDisabled
    else (completeQueries values queries).map fun queries =>
      .batch (queries.map (handler.providers.execution head))

/-- The essence of the content type of a request: a body without a content type is JSON. -/
def contentType (head : Head) : String :=
  match head.headers.first? "content-type" with
  | none => MediaType.json
  | some value => MediaType.essence value

/-- The plan of a request that may bring a body, of which at most `limit` octets are read. -/
def planPost (handler : Handler) (limit : Option Nat) (head : Head) (body : Body) :
    Except Rejection Plan := do
  let parameters := UrlParameters.ofUri head.uri
  let values ← parameters.variableValues
  match parameters.query with
  | some text => .ok (handler.planQuery head parameters text values)
  | none =>
    if contentType head = MediaType.json then do
      let octets ← readBody limit body
      let payload ← Payload.ofBytes octets
      handler.planPayload head values payload
    else if contentType head = MediaType.graphql then do
      let octets ← readBody limit body
      match Utf8.fault? octets with
      | some fault => .error (.invalidUtf8 fault)
      | none =>
        .ok (handler.planQuery head parameters (String.ofList (Utf8.decodeLossy octets)) values)
    else .error (.unsupportedMediaType (contentType head))

/-- The plan of a request of which at most `limit` octets of the body are read. -/
def plan (handler : Handler) (limit : Option Nat) (request : Request) : Except Rejection Plan :=
  if request.head.method = "GET" then handler.planGet request.head
  else if request.head.method = "POST" then handler.planPost limit request.head request.body
  else .error (.methodNotAllowed request.head.method)

end Handler

/-! ## Answer -/

/-- How the handling of a request ends. -/
inductive Ending where
  | response (response : Response)
  | failure (failure : Failure)
  /-- A panic of the engine that nothing caught. -/
  | panic (message : String)
  deriving DecidableEq, Repr

/-- The ending of the only execution of a plan. -/
def Ending.ofOutcome : Outcome → Ending
  | .result result => .response (.json result.toJson.text)
  | .failure reported => .failure (.engine reported)
  | .panic message => .panic message

/-- The envelopes of a batch, or the failure of its first query that failed. -/
def envelopes : List Outcome → Except Failure (List Json)
  | [] => .ok []
  | .result result :: outcomes => (envelopes outcomes).map (result.toJson :: ·)
  | .failure reported :: _ => .error (.engine reported)
  | .panic message :: _ => .error (.taskFailed message)

/-- The ending of a batch. -/
def Ending.ofOutcomes (outcomes : List Outcome) : Ending :=
  match envelopes outcomes with
  | .ok items => .response (.json (Json.array items).text)
  | .error cause => .failure cause

/-- Starts executions in order, after `ordinal` others. -/
def Engine.start (engine : Engine) (ordinal : Nat) : List Execution → List Started
  | [] => []
  | execution :: executions =>
    ⟨execution, engine ordinal execution⟩ :: engine.start (ordinal + 1) executions

@[simp] theorem Engine.map_execution_start (engine : Engine) (ordinal : Nat)
    (executions : List Execution) :
    (engine.start ordinal executions).map Started.execution = executions := by
  induction executions generalizing ordinal with
  | nil => rfl
  | cons execution executions ih => rw [Engine.start, List.map_cons, ih]

@[simp] theorem Engine.length_start (engine : Engine) (ordinal : Nat) (executions : List Execution) :
    (engine.start ordinal executions).length = executions.length := by
  rw [← List.length_map Started.execution, map_execution_start]

/-- Each execution goes as the engine says for its place. -/
theorem Engine.start_eq_mapIdx (engine : Engine) (ordinal : Nat) (executions : List Execution) :
    engine.start ordinal executions =
      executions.mapIdx fun place execution => ⟨execution, engine (ordinal + place) execution⟩ := by
  induction executions generalizing ordinal with
  | nil => rfl
  | cons execution executions ih =>
      rw [Engine.start, ih, List.mapIdx_cons]
      simp only [Nat.add_zero, Nat.add_assoc, Nat.add_comm 1]

theorem Engine.map_outcome_start (engine : Engine) (ordinal : Nat) (executions : List Execution) :
    (engine.start ordinal executions).map Started.outcome =
      executions.mapIdx fun place execution => (engine (ordinal + place) execution).outcome := by
  rw [start_eq_mapIdx, List.mapIdx_eq_zipIdx_map, List.mapIdx_eq_zipIdx_map, List.map_map]
  rfl

/-- What a request causes. -/
structure Handling where
  /-- The executions in the order in which they start. -/
  started : List Started
  /-- The number of queries, if the request is an accepted batch. -/
  batchSize : Option Nat
  ending : Ending

/-- How long the handling of a request takes: until its last execution ends. -/
def Handling.duration (handling : Handling) : Nat :=
  handling.started.foldr (fun started longest => max started.behaviour.delay longest) 0

/-- No execution of a request takes longer than its handling. -/
theorem Handling.delay_le_duration {handling : Handling} {task : Started}
    (member : task ∈ handling.started) : task.behaviour.delay ≤ handling.duration := by
  obtain ⟨started, _, _⟩ := handling
  unfold duration
  induction started with
  | nil => cases member
  | cons first others ih =>
      rw [List.foldr_cons]
      rcases List.mem_cons.mp member with rfl | member
      · exact Nat.le_max_left _ _
      · exact Nat.le_trans (ih member) (Nat.le_max_right _ _)

/-- The ending of a plan whose executions have been started. -/
def Plan.ending (plan : Plan) (started : List Started) : Ending :=
  match plan, started with
  | .single _, [only] => .ofOutcome only.outcome
  | _, _ => .ofOutcomes (Pool.joined started)

/-- Handles a request, after `ordinal` executions of others. -/
def Handler.handle (handler : Handler) (engine : Engine) (ordinal : Nat) (limit : Option Nat)
    (request : Request) : Handling :=
  match handler.plan limit request with
  | .error rejection => ⟨[], none, .failure (.rejected rejection)⟩
  | .ok plan =>
    let started := engine.start ordinal plan.executions
    ⟨started, plan.batchSize?, plan.ending started⟩

theorem Handler.handle_of_rejected {handler : Handler} {limit : Option Nat} {request : Request}
    {rejection : Rejection} (rejected : handler.plan limit request = .error rejection)
    (engine : Engine) (ordinal : Nat) :
    handler.handle engine ordinal limit request = ⟨[], none, .failure (.rejected rejection)⟩ := by
  rw [handle, rejected]

theorem Handler.handle_of_accepted {handler : Handler} {limit : Option Nat} {request : Request}
    {plan : Plan} (accepted : handler.plan limit request = .ok plan) (engine : Engine) (ordinal : Nat) :
    handler.handle engine ordinal limit request =
      ⟨engine.start ordinal plan.executions, plan.batchSize?,
        plan.ending (engine.start ordinal plan.executions)⟩ := by
  rw [handle, accepted]

end QueryGateway.GraphQL
