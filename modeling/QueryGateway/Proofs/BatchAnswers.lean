import QueryGateway.Proofs.Planned

/-!
# Answers to batches

The answer to a batch is put together by place and not by time.  `BatchAnswer` says what a client is told when
the queries of a batch end in some outcomes; the answer depends on nothing else, whatever the order in which the
queries end and whenever the joiner looks at them.
-/

namespace QueryGateway.GraphQL

open Http

/-- The status of the answer or of the failure in which the handling of a request ends. -/
def Ending.status? : Ending → Option Nat
  | .response answer => some answer.status
  | .failure cause => some cause.status
  | .panic _ => none

/-- What a client is told of a batch, with its status, when the queries end in `outcomes`. -/
inductive BatchAnswer (outcomes : List Outcome) : Ending → Nat → Prop
  /-- Every query has a result: an envelope for each, in order. -/
  | envelopes {results : List ExecutionResult} (all : outcomes = results.map .result) :
      BatchAnswer outcomes
        (.response (.json (Json.array (results.map ExecutionResult.toJson)).text)) 200
  /-- The first query that has no result failed in the engine. -/
  | engine {before : List ExecutionResult} {reported : EngineFailure} {after : List Outcome}
      (first : outcomes = before.map .result ++ .failure reported :: after) :
      BatchAnswer outcomes (.failure (.engine reported)) reported.status
  /-- The first query that has no result panicked. -/
  | task {before : List ExecutionResult} {message : String} {after : List Outcome}
      (first : outcomes = before.map .result ++ .panic message :: after) :
      BatchAnswer outcomes (.failure (.taskFailed message)) 500

/-- What the envelopes of a batch are, or in which query they fail. -/
theorem envelopes_cases (outcomes : List Outcome) :
    (∃ results : List ExecutionResult, outcomes = results.map .result ∧
        envelopes outcomes = .ok (results.map ExecutionResult.toJson)) ∨
      (∃ (before : List ExecutionResult) (reported : EngineFailure) (after : List Outcome),
        outcomes = before.map .result ++ .failure reported :: after ∧
        envelopes outcomes = .error (.engine reported)) ∨
      ∃ (before : List ExecutionResult) (message : String) (after : List Outcome),
        outcomes = before.map .result ++ .panic message :: after ∧
        envelopes outcomes = .error (.taskFailed message) := by
  induction outcomes with
  | nil => exact Or.inl ⟨[], rfl, rfl⟩
  | cons outcome outcomes ih =>
      cases outcome with
      | failure reported => exact Or.inr (Or.inl ⟨[], reported, outcomes, rfl, rfl⟩)
      | panic message => exact Or.inr (Or.inr ⟨[], message, outcomes, rfl, rfl⟩)
      | result result =>
          rcases ih with ⟨results, rfl, items⟩ | ⟨before, reported, after, rfl, cause⟩ |
            ⟨before, message, after, rfl, cause⟩
          · exact Or.inl ⟨result :: results, rfl, by rw [envelopes, items]; rfl⟩
          · exact Or.inr (Or.inl ⟨result :: before, reported, after, rfl,
              by rw [envelopes, cause]; rfl⟩)
          · exact Or.inr (Or.inr ⟨result :: before, message, after, rfl,
              by rw [envelopes, cause]; rfl⟩)

/-- The ending of a batch is what its outcomes say, and has the status that goes with it. -/
theorem batchAnswer_ofOutcomes (outcomes : List Outcome) :
    ∃ status, (Ending.ofOutcomes outcomes).status? = some status ∧
      BatchAnswer outcomes (Ending.ofOutcomes outcomes) status := by
  unfold Ending.ofOutcomes
  rcases envelopes_cases outcomes with ⟨results, all, items⟩ | ⟨before, reported, after, first, cause⟩ |
    ⟨before, message, after, first, cause⟩
  · rw [items]
    exact ⟨200, rfl, .envelopes all⟩
  · rw [cause]
    exact ⟨reported.status, rfl, .engine first⟩
  · rw [cause]
    exact ⟨500, rfl, .task first⟩

/-- The answer of the joiner of a batch, once it has the outcome of every task. -/
def Pool.answer? (pool : Pool) : Option Ending := pool.outcomes?.map .ofOutcomes

namespace Pool

variable {tasks : List Started} {pool : Pool}

/-- The joiner gives no answer but that of the outcomes in the order of the tasks. -/
theorem Sound.answer_eq (sound : Sound tasks pool) {answer : Ending}
    (given : pool.answer? = some answer) : answer = .ofOutcomes (tasks.map Started.outcome) := by
  obtain ⟨outcomes, joined, rfl⟩ := Option.map_eq_some_iff.mp given
  rw [sound.outcomes_eq joined]

theorem Sound.answer?_of_isSome (sound : Sound tasks pool) (done : pool.outcomes?.isSome) :
    pool.answer? = some (.ofOutcomes (tasks.map Started.outcome)) := by
  obtain ⟨outcomes, joined⟩ := Option.isSome_iff_exists.mp done
  rw [answer?, joined, ← sound.outcomes_eq joined]
  rfl

end Pool

/-- A batch is handled as a pool of tasks, and ends as the outcomes of the tasks say. -/
theorem Handler.handle_batch {handler : Handler} {limit : Option Nat} {request : Request}
    {executions : List Execution} (accepted : handler.plan limit request = .ok (.batch executions))
    (engine : Engine) (ordinal : Nat) :
    handler.handle engine ordinal limit request =
      ⟨engine.start ordinal executions, some executions.length,
        .ofOutcomes (executions.mapIdx fun place execution =>
          (engine (ordinal + place) execution).outcome)⟩ := by
  rw [handle_of_accepted accepted, ← Engine.map_outcome_start]
  simp only [Plan.executions, Plan.batchSize?, Plan.ending, Pool.joined_eq]

/-- The answer to a batch is one and the same in every order in which its queries can end: the envelopes of the
results by place, or the failure of the first query that has no result.  No schedule gives another answer, and
none gives one in part. -/
theorem batch_answer_by_place {handler : Handler} {limit : Option Nat} {request : Request}
    {executions : List Execution} (accepted : handler.plan limit request = .ok (.batch executions)) :
    (∃ queries, handler.Executes limit request queries executions) ∧
      ∀ (engine : Engine) (ordinal : Nat),
        let handling := handler.handle engine ordinal limit request
        let outcomes := executions.mapIdx fun place execution =>
          (engine (ordinal + place) execution).outcome
        let after := (Pool.spawn handling.started).run
        (∃ status, handling.ending.status? = some status ∧
          BatchAnswer outcomes handling.ending status) ∧
        (∀ order, Pool.IsOrder handling.started order →
          ((after (Pool.scheduleOf executions.length order)).ends.map fun e => (e.place, e.time)) =
              order ∧
            (after (Pool.scheduleOf executions.length order)).answer? = some handling.ending) ∧
        (∀ events answer, (after events).answer? = some answer → answer = handling.ending) ∧
        ∀ events, (∀ place < executions.length, ((after events).end? place).isSome) →
          (after (events ++ Pool.looks executions.length)).answer? = some handling.ending := by
  refine ⟨Handler.executes_of_plan accepted, ?_⟩
  intro engine ordinal
  rw [Handler.handle_batch accepted, ← Engine.map_outcome_start]
  have length := engine.length_start ordinal executions
  have sound := Pool.Sound.spawn (engine.start ordinal executions)
  refine ⟨batchAnswer_ofOutcomes _, ?_, fun events answer given => (sound.run events).answer_eq given, ?_⟩
  · intro order fits
    obtain ⟨ends, done⟩ := fits.run
    rw [length] at ends done
    exact ⟨ends, (sound.run _).answer?_of_isSome done⟩
  · intro events ended
    rw [← length] at ended ⊢
    have done := (sound.run events).isSome_outcomes?_looks ended
    rw [← Pool.run_append] at done
    exact (sound.run _).answer?_of_isSome done

/-- The first query fails after the second has panicked. -/
def Engine.lateFailure : Engine :=
  Engine.scripted
    [⟨"first", 20, some (.failure ⟨"no first", some 503⟩)⟩, ⟨"second", 0, some (.panic "no second")⟩]

/-- The client is told of the first query, although the second one failed before. -/
theorem batch_answer_of_late_failure :
    ∃ status,
      ((Handler.new ⟨true⟩).handle Engine.lateFailure 0 none twoQueries).ending.status? = some status ∧
        BatchAnswer [.failure ⟨"no first", some 503⟩, .panic "no second"]
          ((Handler.new ⟨true⟩).handle Engine.lateFailure 0 none twoQueries).ending status :=
  ((batch_answer_by_place plan_twoQueries).2 Engine.lateFailure 0).1

end QueryGateway.GraphQL
