import QueryGateway.Proofs.BatchAnswers
import QueryGateway.Server.Basic

/-!
# Tasks of batches

The queries of a batch are isolated from each other: what becomes of one, be it a failure or a panic, neither
keeps another from being handed to the engine and from ending, nor makes it happen twice.  When the handling of
a batch is over, every task that does not panic has ended, and the ends are told in the order of their times.
-/

namespace QueryGateway.GraphQL

open Http

/-! ## In every schedule -/

/-- Each task of a pool hands over its query at most once and ends at most once, with an outcome of its own; and
whatever became of the others, nothing keeps it from doing so. -/
structure Pool.Isolated (tasks : List Started) (pool : Pool) : Prop where
  handedOnce : pool.handed.Nodup
  endedOnce : (pool.ends.map End.place).Nodup
  inOrder : pool.ends.Pairwise fun earlier later => earlier.time ≤ later.time
  own : ∀ e ∈ pool.ends, ∃ task, tasks[e.place]? = some task ∧ e.outcome = task.outcome
  mayHand : ∀ place < tasks.length, place ∉ pool.handed →
    pool.next (.hand place) = { pool with handed := pool.handed ++ [place] }
  mayEnd : ∀ place task, tasks[place]? = some task → place ∈ pool.handed → pool.end? place = none →
    ∀ time, pool.now ≤ time →
      pool.next (.finish place time) =
        { pool with now := time, ends := pool.ends ++ [⟨place, time, task.outcome⟩] }
  /-- There is no answer before every query was handed over and every task has ended. -/
  complete : pool.answer?.isSome →
    pool.handed.Perm (List.range tasks.length) ∧
      (pool.ends.map End.place).Perm (List.range tasks.length)

namespace Pool

variable {tasks : List Started} {pool : Pool}

/-- Places without repetition, of which none is missing, are all the places. -/
theorem perm_range {count : Nat} {places : List Nat} (once : places.Nodup)
    (within : ∀ place ∈ places, place < count) (all : ∀ place < count, place ∈ places) :
    places.Perm (List.range count) := by
  refine (List.perm_ext_iff_of_nodup once List.nodup_range).mpr ?_
  intro place
  rw [List.mem_range]
  exact ⟨within place, all place⟩

theorem Sound.isolated (sound : Sound tasks pool) : Isolated tasks pool where
  handedOnce := sound.handedOnce
  endedOnce := sound.once
  inOrder := sound.inOrder
  own := sound.own
  mayHand := fun _ inTasks fresh => sound.next_hand inTasks fresh
  mayEnd := fun _ _ taskAt begun running _ later => sound.next_finish taskAt begun running later
  complete := by
    intro answered
    rw [answer?, Option.isSome_map] at answered
    obtain ⟨outcomes, joined⟩ := Option.isSome_iff_exists.mp answered
    have ended : ∀ place < tasks.length, place ∈ pool.ends.map End.place := by
      intro place inTasks
      rw [← sound.length_outcomes joined] at inTasks
      obtain ⟨e, member, here, -⟩ := sound.exists_end joined inTasks
      exact List.mem_map.mpr ⟨e, member, here⟩
    have begun : ∀ place ∈ pool.ends.map End.place, place ∈ pool.handed := by
      intro place member
      obtain ⟨e, inEnds, rfl⟩ := List.mem_map.mp member
      exact sound.afterHand e inEnds
    exact ⟨perm_range sound.handedOnce sound.handedInTasks
        fun place inTasks => begun place (ended place inTasks),
      perm_range sound.once (fun place member => sound.handedInTasks place (begun place member)) ended⟩

end Pool

/-! ## When the handling is over -/

namespace Clock

variable {clock : Clock} {handling : Handling}

/-- What a request has started ends before its handling is over. -/
theorem time_le_of_due? {task : Started} (member : task ∈ handling.started) {due : Due}
    (started : clock.due? task = some due) : due.time ≤ clock.now + handling.duration := by
  have inTime := Handling.delay_le_duration member
  unfold due? at started
  split at started
  · cases started
  · cases started
    exact Nat.add_le_add_left inTime clock.now

/-- The executions that a request has started and that do not panic. -/
def dues (clock : Clock) (handling : Handling) : List Due := handling.started.filterMap clock.due?

theorem time_le_of_mem_dues {due : Due} (member : due ∈ clock.dues handling) :
    due.time ≤ clock.now + handling.duration := by
  obtain ⟨task, inStarted, started⟩ := List.mem_filterMap.mp member
  exact time_le_of_due? inStarted started

/-- What is told of a handling: the ends, in the order of their times, of every execution that does not panic,
and of what was due from before. -/
theorem await_finished (clock : Clock) (handling : Handling) :
    ∃ ended : List Due, (clock.await handling).1.finished = ended.map Due.execution ∧
      ended.Pairwise (fun earlier later => earlier.time ≤ later.time) ∧
      ended.Perm
        ((clock.running.filter fun due => due.time ≤ clock.now + handling.duration) ++
          clock.dues handling) := by
  refine ⟨_, rfl, Pool.pairwise_mergeSort_by Due.time _, ?_⟩
  refine (List.mergeSort_perm _ _).trans ?_
  have all : ((clock.dues handling).filter fun due => due.time ≤ clock.now + handling.duration) =
      clock.dues handling := by
    rw [List.filter_eq_self]
    intro due member
    exact decide_eq_true (time_le_of_mem_dues member)
  have split := List.filter_append
    (p := fun due => decide (due.time ≤ clock.now + handling.duration)) clock.running (clock.dues handling)
  rw [all] at split
  exact List.Perm.of_eq split

/-- Nothing that a request has started still runs when its handling is over. -/
theorem await_running (clock : Clock) (handling : Handling) :
    (clock.await handling).2.running =
      clock.running.filter fun due => clock.now + handling.duration < due.time := by
  have none : ((clock.dues handling).filter fun due => clock.now + handling.duration < due.time) = [] := by
    rw [List.filter_eq_nil_iff]
    intro due member later
    have inTime := time_le_of_mem_dues member
    have late := of_decide_eq_true later
    omega
  have split := List.filter_append
    (p := fun due => decide (clock.now + handling.duration < due.time)) clock.running
    (clock.dues handling)
  rw [none, List.append_nil] at split
  exact split

end Clock

/-- The queries of a batch are isolated.  Each is handed to the engine exactly once; in every schedule each task
goes its own way; and when the handling is over, each execution that does not panic has ended exactly once, in
the order of the times, and none still runs. -/
theorem batch_queries_isolated {handler : Handler} {limit : Option Nat} {request : Request}
    {executions : List Execution} (accepted : handler.plan limit request = .ok (.batch executions)) :
    (∃ queries, handler.Executes limit request queries executions) ∧
      ∀ (engine : Engine) (clock : Clock),
        let tasks : List Started := executions.mapIdx fun place execution =>
          ⟨execution, engine (clock.started + place) execution⟩
        let handling := handler.handle engine clock.started limit request
        let last := clock.now + handling.duration
        let (ending, activity, later) := handler.serveWithin engine clock limit request
        handling.started = tasks ∧ ending = handling.ending ∧ activity.calls = executions ∧
        (∀ events, Pool.Isolated tasks ((Pool.spawn tasks).run events)) ∧
        (∃ ended : List Due, activity.finished = ended.map Due.execution ∧
          ended.Pairwise (fun earlier later => earlier.time ≤ later.time) ∧
          ended.Perm
            ((clock.running.filter fun due => due.time ≤ last) ++ tasks.filterMap clock.due?)) ∧
        later.running = clock.running.filter fun due => last < due.time := by
  refine ⟨Handler.executes_of_plan accepted, ?_⟩
  intro engine clock tasks handling last
  have started : handling.started = tasks := by
    show (handler.handle engine clock.started limit request).started = tasks
    rw [Handler.handle_batch accepted]
    exact engine.start_eq_mapIdx clock.started executions
  have calls : handling.started.map Started.execution = executions := by
    show (handler.handle engine clock.started limit request).started.map Started.execution = executions
    rw [Handler.handle_batch accepted]
    exact engine.map_execution_start clock.started executions
  obtain ⟨ended, finished, inOrder, all⟩ := clock.await_finished handling
  rw [Clock.dues, started] at all
  exact ⟨started, rfl, calls, fun events => ((Pool.Sound.spawn tasks).run events).isolated,
    ⟨ended, finished, inOrder, all⟩, clock.await_running handling⟩

/-- The first query fails and the second one panics, and both are handed to the engine. -/
theorem two_queries_isolated :
    ((Handler.new ⟨true⟩).serveWithin Engine.lateFailure .zero none twoQueries).2.1.calls =
      [executionOfTwo "first", executionOfTwo "second"] :=
  ((batch_queries_isolated plan_twoQueries).2 Engine.lateFailure .zero).2.2.1

end QueryGateway.GraphQL
