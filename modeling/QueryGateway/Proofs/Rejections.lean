import QueryGateway.Proofs.BatchAnswers
import QueryGateway.Server.Basic

/-!
# Rejected requests

A request is rejected before anything of it is executed, or not at all: a request that is rejected hands no query
to the engine and leaves no sample of a batch behind, and a request that ends in any other way hands over every
query that it carries, each exactly once.
-/

namespace QueryGateway

open Http

namespace GraphQL

/-- The handling ends in a rejection: in a failure that is neither the engine's nor that of a task. -/
def Handling.IsRejected (handling : Handling) : Prop :=
  ∃ rejection, handling.ending = .failure (.rejected rejection)

theorem ofOutcome_ne_rejected (outcome : Outcome) (rejection : Rejection) :
    Ending.ofOutcome outcome ≠ .failure (.rejected rejection) := by
  cases outcome <;> exact nofun

theorem ofOutcomes_ne_rejected (outcomes : List Outcome) (rejection : Rejection) :
    Ending.ofOutcomes outcomes ≠ .failure (.rejected rejection) := by
  unfold Ending.ofOutcomes
  rcases envelopes_cases outcomes with ⟨results, -, items⟩ | ⟨_, reported, _, -, cause⟩ |
    ⟨_, message, _, -, cause⟩
  · rw [items]
    exact nofun
  · rw [cause]
    exact nofun
  · rw [cause]
    exact nofun

/-- A plan that is executed does not end in a rejection. -/
theorem Plan.ending_ne_rejected (plan : Plan) (started : List Started) (rejection : Rejection) :
    plan.ending started ≠ .failure (.rejected rejection) := by
  unfold Plan.ending
  split
  · exact ofOutcome_ne_rejected _ rejection
  · exact ofOutcomes_ne_rejected _ rejection

namespace Handler

variable {handler : Handler} {engine : Engine} {ordinal : Nat} {limit : Option Nat} {request : Request}

theorem not_isRejected_of_plan {plan : Plan} (decided : handler.plan limit request = .ok plan) :
    ¬(handler.handle engine ordinal limit request).IsRejected := by
  rintro ⟨rejection, ending⟩
  rw [handle_of_accepted decided] at ending
  exact plan.ending_ne_rejected _ rejection ending

/-- A handling is that of a request without a plan, or that of a plan. -/
theorem handle_cases (handler : Handler) (engine : Engine) (ordinal : Nat) (limit : Option Nat)
    (request : Request) :
    (∃ rejection, handler.plan limit request = .error rejection ∧
        handler.handle engine ordinal limit request = ⟨[], none, .failure (.rejected rejection)⟩) ∨
      ∃ plan, handler.plan limit request = .ok plan ∧
        ¬(handler.handle engine ordinal limit request).IsRejected ∧
        (handler.handle engine ordinal limit request).started.map Started.execution =
          plan.executions := by
  cases decided : handler.plan limit request with
  | error rejection => exact Or.inl ⟨rejection, rfl, handle_of_rejected decided engine ordinal⟩
  | ok plan =>
      refine Or.inr ⟨plan, rfl, not_isRejected_of_plan decided, ?_⟩
      rw [handle_of_accepted decided]
      exact engine.map_execution_start ordinal plan.executions

/-- A request that is rejected starts nothing. -/
theorem untouched_of_rejected (rejected : (handler.handle engine ordinal limit request).IsRejected) :
    (handler.handle engine ordinal limit request).started = [] ∧
      (handler.handle engine ordinal limit request).batchSize = none := by
  rcases handler.handle_cases engine ordinal limit request with ⟨rejection, -, same⟩ | ⟨plan, -, executed, -⟩
  · rw [same]
    exact ⟨rfl, rfl⟩
  · exact absurd rejected executed

/-- A request that is not rejected starts the execution of every query that it carries. -/
theorem executes_of_not_rejected
    (accepted : ¬(handler.handle engine ordinal limit request).IsRejected) :
    ∃ queries, handler.Executes limit request queries
      ((handler.handle engine ordinal limit request).started.map Started.execution) := by
  rcases handler.handle_cases engine ordinal limit request with
    ⟨rejection, -, same⟩ | ⟨plan, decided, -, calls⟩
  · rw [same] at accepted
    exact absurd ⟨rejection, rfl⟩ accepted
  · rw [calls]
    exact executes_of_plan decided

end Handler

end GraphQL

namespace Server

open GraphQL

theorem batches_record_none (metrics : Metrics) (method : String) (reply : Option Reply) :
    (record metrics method none reply).batches = metrics.batches := by
  unfold record
  cases reply with
  | none => rfl
  | some reply => cases reply <;> rfl

theorem handler_handleInTime (server : Server) (engine : Engine) (limit : Nat) (request : Request) :
    (server.handleInTime engine limit request).2.2.handler = server.handler := by
  unfold handleInTime
  dsimp only
  split <;> rfl

/-- In time or not, what is started is what the handling starts. -/
theorem calls_handleInTime (server : Server) (engine : Engine) (limit : Nat) (request : Request) :
    (server.handleInTime engine limit request).2.1.calls =
      (server.handler.handle engine server.clock.started (some limit) request).started.map
        Started.execution := by
  unfold handleInTime
  dsimp only
  split <;> rfl

theorem started_handleInTime (server : Server) (engine : Engine) (limit : Nat) (request : Request) :
    (server.handleInTime engine limit request).2.2.clock.started =
      server.clock.started + (server.handleInTime engine limit request).2.1.calls.length := by
  unfold handleInTime
  dsimp only
  split <;> rfl

theorem batches_handleInTime {server : Server} {engine : Engine} {limit : Nat} {request : Request}
    (single : (server.handler.handle engine server.clock.started (some limit) request).batchSize = none) :
    (server.handleInTime engine limit request).2.2.metrics.batches = server.metrics.batches := by
  unfold handleInTime
  simp only [single]
  split
  · exact batches_record_none _ _ _
  · exact batches_record_none _ _ _

end Server

namespace GraphQL

/-- A rejected request leaves no trace, and every other request hands each of its queries to the engine exactly
once; the same holds of a server, which keeps its handler whatever becomes of the request. -/
theorem rejection_leaves_no_trace (engine : Engine) (request : Request) :
    (∀ (handler : Handler) (ordinal : Nat) (limit : Option Nat),
      let handling := handler.handle engine ordinal limit request
      (handling.IsRejected → handling.started = [] ∧ handling.batchSize = none) ∧
        (¬handling.IsRejected → ∃ queries,
          handler.Executes limit request queries (handling.started.map Started.execution))) ∧
      ∀ (server : Server) (limit : Nat),
        let handling := server.handler.handle engine server.clock.started (some limit) request
        let told := (server.handleInTime engine limit request).2.1
        let after := (server.handleInTime engine limit request).2.2
        after.handler = server.handler ∧
          (handling.IsRejected → told.calls = [] ∧ after.clock.started = server.clock.started ∧
            after.metrics.batches = server.metrics.batches) ∧
          (¬handling.IsRejected → ∃ queries,
            server.handler.Executes (some limit) request queries told.calls) := by
  refine ⟨fun handler ordinal limit => ⟨Handler.untouched_of_rejected, Handler.executes_of_not_rejected⟩, ?_⟩
  intro server limit handling told after
  have calls : told.calls = handling.started.map Started.execution :=
    server.calls_handleInTime engine limit request
  have started : after.clock.started = server.clock.started + told.calls.length :=
    server.started_handleInTime engine limit request
  refine ⟨server.handler_handleInTime engine limit request, ?_, ?_⟩
  · intro rejected
    obtain ⟨nothing, single⟩ := Handler.untouched_of_rejected rejected
    have noCalls : told.calls = [] := by
      rw [calls]
      exact congrArg (List.map Started.execution) nothing
    refine ⟨noCalls, ?_, Server.batches_handleInTime single⟩
    rw [started, noCalls]
    rfl
  · intro accepted
    rw [calls]
    exact Handler.executes_of_not_rejected accepted

/-- A batch whose second query has no text is rejected, and its first query is not executed either. -/
theorem no_trace_of_second_without_text :
    ((Handler.new ⟨true⟩).handle Engine.echo 0 none (postedBatch [.ofText "first", .blank])).started = [] ∧
      ((Handler.new ⟨true⟩).handle Engine.echo 0 none
        (postedBatch [.ofText "first", .blank])).batchSize = none :=
  ((rejection_leaves_no_trace Engine.echo (postedBatch [.ofText "first", .blank])).1
    (Handler.new ⟨true⟩) 0 none).1 ⟨.queryMissing, by with_unfolding_all rfl⟩

end GraphQL

end QueryGateway
