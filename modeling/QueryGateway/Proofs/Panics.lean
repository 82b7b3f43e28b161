import QueryGateway.Proofs.PayloadTexts
import QueryGateway.Proofs.Served

/-!
# Panics of the engine

Whatever the engine does, the handling of a request ends in a response or in a failure, unless the engine panics
in a query that was sent alone.  Nothing catches such a panic, and the client is told nothing.  In a batch, even in
a batch of one query, the same panic is the failure of a task.
-/

namespace QueryGateway

open Http

namespace GraphQL

/-! ## Endings -/

theorem Ending.ofOutcome_eq_panic_iff {outcome : Outcome} {message : String} :
    Ending.ofOutcome outcome = .panic message ↔ outcome = .panic message := by
  cases outcome with
  | result | failure => exact ⟨nofun, nofun⟩
  | panic other =>
      constructor
      · rintro ⟨⟩
        rfl
      · rintro ⟨⟩
        rfl

/-- A batch does not end in a panic. -/
theorem Ending.ofOutcomes_ne_panic (outcomes : List Outcome) (message : String) :
    Ending.ofOutcomes outcomes ≠ .panic message := by
  obtain ⟨status, answered, -⟩ := batchAnswer_ofOutcomes outcomes
  intro same
  rw [same] at answered
  cases answered

/-- An ending has a status, or it is a panic. -/
theorem Ending.exists_status_iff {ending : Ending} :
    (∃ status, ending.status? = some status) ↔ ¬∃ message, ending = .panic message := by
  cases ending with
  | response answer => exact ⟨fun _ => nofun, fun _ => ⟨_, rfl⟩⟩
  | failure cause => exact ⟨fun _ => nofun, fun _ => ⟨_, rfl⟩⟩
  | panic message => exact ⟨nofun, fun other => absurd ⟨message, rfl⟩ other⟩

/-- A request is planned as one query, and the engine panics in it. -/
def Handler.PanicsAlone (handler : Handler) (engine : Engine) (ordinal : Nat) (limit : Option Nat)
    (request : Request) (message : String) : Prop :=
  ∃ execution, handler.plan limit request = .ok (.single execution) ∧
    (engine ordinal execution).outcome = .panic message

/-- A handling ends in a panic exactly if the only query that it executes does. -/
theorem Handler.ending_eq_panic_iff {handler : Handler} {engine : Engine} {ordinal : Nat} {limit : Option Nat}
    {request : Request} {message : String} :
    (handler.handle engine ordinal limit request).ending = .panic message ↔
      handler.PanicsAlone engine ordinal limit request message := by
  unfold PanicsAlone
  cases decided : handler.plan limit request with
  | error rejection =>
      rw [handle_of_rejected decided]
      exact ⟨nofun, nofun⟩
  | ok plan =>
      cases plan with
      | single execution =>
          rw [handle_single decided, Ending.ofOutcome_eq_panic_iff]
          constructor
          · intro panics
            exact ⟨execution, rfl, panics⟩
          · rintro ⟨_, ⟨⟩, panics⟩
            exact panics
      | batch executions =>
          rw [handle_batch decided]
          constructor
          · intro panics
            exact absurd panics (Ending.ofOutcomes_ne_panic _ message)
          · rintro ⟨_, ⟨⟩, -⟩

end GraphQL

/-! ## Replies -/

namespace Server

open GraphQL

theorem Reply.map_ofEnding_eq_panic_iff {f : Response → Response} {ending : Ending} {message : String} :
    (Reply.ofEnding ending).map f = .panic message ↔ ending = .panic message := by
  cases ending with
  | response | failure => exact ⟨nofun, nofun⟩
  | panic other =>
      constructor
      · rintro ⟨⟩
        rfl
      · rintro ⟨⟩
        rfl

/-- No layer catches a panic: it is all that is told of a request whose handling ends in it in time. -/
theorem reply_eq_panic_iff {server : Server} {engine : Engine} {fresh : Bytes} {request : Request}
    {message : String} :
    (server.serve engine fresh request).1 = .panic message ↔
      server.reaches (identified fresh request) = true ∧
        (server.handling engine (identified fresh request)).duration < server.deadline ∧
        (server.handling engine (identified fresh request)).ending = .panic message := by
  have served := server.served_serve engine fresh request
  generalize server.serve engine fresh request = result at served
  cases served with
  | noTime none => exact ⟨nofun, fun ⟨reached, _⟩ => absurd reached (not_reaches_of_noTime none)⟩
  | tooMuch time long => exact ⟨nofun, fun ⟨reached, _⟩ => absurd reached (not_reaches_of_tooMuch long)⟩
  | unknown time short other =>
      exact ⟨nofun, fun ⟨reached, _⟩ => absurd reached (not_reaches_of_unknown other)⟩
  | inTime reached timely =>
      rw [Reply.map_ofEnding_eq_panic_iff]
      exact ⟨fun panics => ⟨reached, timely, panics⟩, fun panics => panics.2.2⟩
  | cutOff reached late => exact ⟨nofun, fun ⟨_, timely, _⟩ => absurd timely (Nat.not_lt.mpr late)⟩

end Server

/-! ## A query alone and in a batch of one -/

namespace GraphQL

/-- What a query ends in when it is sent alone, and when it is sent as the only one of a batch. -/
inductive AloneAndInBatch : Outcome → Ending → Ending → Prop
  | result (result : ExecutionResult) :
      AloneAndInBatch (.result result) (.response (.json result.toJson.text))
        (.response (.json (Json.array [result.toJson]).text))
  | failure (reported : EngineFailure) :
      AloneAndInBatch (.failure reported) (.failure (.engine reported)) (.failure (.engine reported))
  /-- The panic reaches whoever called the handler, or it is the failure of a task. -/
  | panic (message : String) :
      AloneAndInBatch (.panic message) (.panic message) (.failure (.taskFailed message))

theorem aloneAndInBatch (outcome : Outcome) :
    AloneAndInBatch outcome (.ofOutcome outcome) (.ofOutcomes [outcome]) := by
  cases outcome with
  | result result => exact .result result
  | failure reported => exact .failure reported
  | panic message => exact .panic message

/-- A query is executed alike alone and in a batch of one. -/
theorem AsksInDocument.aloneAndInBatch {handler : Handler} {limit : Option Nat} {head : Head}
    {values : Option Members} (asks : AsksInDocument head values) (batching : handler.options.batching = true)
    {query : Query} (given : query.text ≠ none) (portable : (Payload.batch [query]).IsPortable)
    {alone together : Body} (body : IsBodyOf limit query.toJson alone)
    (batch : IsBodyOf limit (.array [query.toJson]) together) (engine : Engine) (ordinal : Nat) :
    AloneAndInBatch (engine ordinal (handler.executionOf head values query)).outcome
      (handler.handle engine ordinal limit ⟨head, alone⟩).ending
      (handler.handle engine ordinal limit ⟨head, together⟩).ending := by
  obtain ⟨portable, shallow⟩ := portable query List.mem_cons_self
  have accepted : query.Accepted query := portable.accepted given
  have single : handler.plan limit ⟨head, alone⟩ = .ok (.single (handler.executionOf head values query)) :=
    (asks.plan_query (Nat.lt_of_succ_lt shallow) body).1 query accepted
  have each : ∀ other ∈ [query], other.toJson.nesting + 1 < Json.depthLimit :=
    List.forall_mem_singleton.mpr shallow
  have planned := (asks.plan_batch batching each batch).1 [query] (.cons accepted .nil)
  rw [Handler.handle_single single, Handler.handle_batch planned]
  exact GraphQL.aloneAndInBatch _

/-- Every handling ends in one response or one failure, with a status, unless the engine panics in the only query
of a request that is no batch: such a panic escapes, and the layers around the handler do not catch it either.  So
a query that panics alone is not answered as it is in a batch of one. -/
theorem panic_escapes_from_query_alone (engine : Engine) :
    (∀ (handler : Handler) (ordinal : Nat) (limit : Option Nat) (request : Request),
      let ending := (handler.handle engine ordinal limit request).ending
      ((∃ status, ending.status? = some status) ↔
          ¬∃ message, handler.PanicsAlone engine ordinal limit request message) ∧
        ∀ message, ending = .panic message ↔ handler.PanicsAlone engine ordinal limit request message) ∧
      (∀ (server : Server) (fresh : Bytes) (request : Request) (message : String),
        (server.serve engine fresh request).1 = .panic message ↔
          server.reaches (Server.identified fresh request) = true ∧
            (server.handling engine (Server.identified fresh request)).duration < server.deadline ∧
            (server.handling engine (Server.identified fresh request)).ending = .panic message) ∧
      ∀ (handler : Handler) (limit : Option Nat) (head : Head) (values : Option Members) (query : Query)
        (alone together : Body), handler.options.batching = true → AsksInDocument head values →
        query.text ≠ none → (Payload.batch [query]).IsPortable → IsBodyOf limit query.toJson alone →
        IsBodyOf limit (.array [query.toJson]) together → ∀ ordinal,
          AloneAndInBatch (engine ordinal (handler.executionOf head values query)).outcome
            (handler.handle engine ordinal limit ⟨head, alone⟩).ending
            (handler.handle engine ordinal limit ⟨head, together⟩).ending := by
  refine ⟨?_, fun server fresh request message => Server.reply_eq_panic_iff, ?_⟩
  · intro handler ordinal limit request ending
    have panics (message : String) : ending = .panic message ↔
        handler.PanicsAlone engine ordinal limit request message := Handler.ending_eq_panic_iff
    refine ⟨?_, panics⟩
    rw [Ending.exists_status_iff]
    exact not_congr (exists_congr panics)
  · intro handler limit head values query alone together batching asks given portable body batch ordinal
    exact asks.aloneAndInBatch batching given portable body batch engine ordinal

/-- The engine panics in one query. -/
def Engine.panicking : Engine := Engine.scripted [⟨"a", 0, some (.panic "no answer")⟩]

theorem panic_alone_and_in_batch :
    AloneAndInBatch (.panic "no answer")
      ((Handler.new ⟨true⟩).handle Engine.panicking 0 none
        ⟨twoQueries.head, printedBody (Query.ofText "a").toJson⟩).ending
      ((Handler.new ⟨true⟩).handle Engine.panicking 0 none
        ⟨twoQueries.head, printedBody (.array [(Query.ofText "a").toJson])⟩).ending :=
  (panic_escapes_from_query_alone Engine.panicking).2.2 (Handler.new ⟨true⟩) none twoQueries.head none
    (.ofText "a") _ _ rfl asksInDocument_twoQueries nofun (List.forall_mem_singleton.mpr ⟨nofun, by decide⟩)
    (isBodyOf_printedBody _) (isBodyOf_printedBody _) 0

/-- Not every handling ends in a response or in a failure. -/
theorem panic_alone_not_answered :
    ¬∀ (handler : Handler) (engine : Engine) (request : Request),
      ∃ status, (handler.handle engine 0 none request).ending.status? = some status := by
  intro all
  obtain ⟨status, answered⟩ := all (Handler.new ⟨true⟩) Engine.panicking
    ⟨⟨"GET", ⟨"/graphql", some "query=a"⟩, []⟩, []⟩
  have escapes : ((Handler.new ⟨true⟩).handle Engine.panicking 0 none
      ⟨⟨"GET", ⟨"/graphql", some "query=a"⟩, []⟩, []⟩).ending = .panic "no answer" := by
    with_unfolding_all rfl
  rw [escapes] at answered
  cases answered

end GraphQL

end QueryGateway
