import QueryGateway.GraphQL.Execution

/-!
# Executions that run at once

The executions of a batch run at once, each in a task of its own.  When a task gets its first turn it hands its
query to the engine, and it ends once, with a result, a failure or a panic that reaches no other task.  A joiner
looks at the tasks, whenever it likes, and puts the outcome of one that has ended into the slot of its place; it
is done when every slot is filled.  A schedule is any sequence of such events; `Pool.schedule` is the one in
which every task ends when its delay is over.
Main statements: after every schedule each task has handed over its query at most once and has ended at most
once, in the order of the times, and a slot holds nothing but the outcome of the task of its place; after
`Pool.schedule` every slot is filled.
-/

namespace QueryGateway.GraphQL

/-- An execution that was started, and how it goes. -/
structure Started where
  execution : Execution
  behaviour : Behaviour

/-- How an execution that was started ends. -/
def Started.outcome (task : Started) : Outcome := task.behaviour.outcome

/-- The end of a task: its place, the time since the tasks were started, and the outcome. -/
structure End where
  place : Nat
  time : Nat
  outcome : Outcome

/-- Tasks that run at once, and what their joiner holds. -/
structure Pool where
  /-- The tasks in the order of the queries. -/
  tasks : List Started
  now : Nat
  /-- The places of the tasks that handed their queries to the engine, in the order in which they did. -/
  handed : List Nat
  /-- The ends so far, in their order. -/
  ends : List End
  /-- For each task its outcome, once the joiner has it. -/
  slots : List (Option Outcome)

namespace Pool

/-- Tasks that were just started. -/
def spawn (tasks : List Started) : Pool := ⟨tasks, 0, [], [], tasks.map fun _ => none⟩

/-- What happens to a pool. -/
inductive Event where
  /-- The task at a place gets its first turn and hands its query to the engine. -/
  | hand (place : Nat)
  /-- The task at a place ends at a time. -/
  | finish (place time : Nat)
  /-- The joiner looks at the task at a place. -/
  | collect (place : Nat)

/-- The end of the task at a place, if it has ended. -/
def end? (pool : Pool) (place : Nat) : Option End := pool.ends.find? fun e => e.place == place

/-- The pool after an event.  No task hands over its query twice or ends twice or before it did, time does not
run backwards, and the joiner takes nothing from a task that still runs: such an event changes nothing. -/
def next (pool : Pool) : Event → Pool
  | .hand place =>
    if place < pool.tasks.length ∧ place ∉ pool.handed then
      { pool with handed := pool.handed ++ [place] }
    else pool
  | .finish place time =>
    match pool.tasks[place]?, pool.end? place with
    | some task, none =>
      if place ∈ pool.handed ∧ pool.now ≤ time then
        { pool with now := time, ends := pool.ends ++ [⟨place, time, task.outcome⟩] }
      else pool
    | _, _ => pool
  | .collect place =>
    match pool.end? place with
    | some e => { pool with slots := pool.slots.set place (some e.outcome) }
    | none => pool

/-- The pool after a sequence of events. -/
def run (pool : Pool) (events : List Event) : Pool := events.foldl next pool

/-- The outcomes in the order of the tasks, once the joiner has them all. -/
def outcomes? (pool : Pool) : Option (List Outcome) := pool.slots.mapM id

/-- The first turns of some tasks, in order. -/
def hands (count : Nat) : List Event := (List.range count).map .hand

/-- Looks of the joiner at some tasks, in order. -/
def looks (count : Nat) : List Event := (List.range count).map .collect

/-- The events of a task, by its place, that ends at a time and whose outcome is taken at once. -/
def turn (entry : Nat × Nat) : List Event := [.finish entry.1 entry.2, .collect entry.1]

/-- The schedule in which all queries are handed over in order, and then the tasks, by their places, end at
given times. -/
def scheduleOf (count : Nat) (order : List (Nat × Nat)) : List Event := hands count ++ order.flatMap turn

/-- The places of some tasks with their delays, in the order in which the delays are over. -/
def byDelay (tasks : List Started) : List (Nat × Nat) :=
  (tasks.zipIdx.map fun (task, place) => (place, task.behaviour.delay)).mergeSort fun a b => a.2 ≤ b.2

/-- The schedule in which every task ends when its delay is over. -/
def schedule (tasks : List Started) : List Event := scheduleOf tasks.length (byDelay tasks)

/-- The pool of some tasks when all their delays are over. -/
def settled (tasks : List Started) : Pool := (spawn tasks).run (schedule tasks)

theorem run_nil (pool : Pool) : pool.run [] = pool := rfl

theorem run_cons (pool : Pool) (event : Event) (events : List Event) :
    pool.run (event :: events) = (pool.next event).run events := rfl

theorem run_append (pool : Pool) (first second : List Event) :
    pool.run (first ++ second) = (pool.run first).run second :=
  List.foldl_append

theorem end?_eq_none_iff {pool : Pool} {place : Nat} :
    pool.end? place = none ↔ place ∉ pool.ends.map End.place := by
  simp only [end?, List.find?_eq_none, List.mem_map, not_exists, not_and, beq_iff_eq]

theorem end?_eq_some {pool : Pool} {place : Nat} {e : End} (found : pool.end? place = some e) :
    e ∈ pool.ends ∧ e.place = place :=
  ⟨List.mem_of_find?_eq_some found, by simpa using List.find?_some found⟩

/-- All an event can do: nothing, the first turn of a task, the end of a task that runs, or the transfer of an
outcome into the slot of its place. -/
theorem next_cases (pool : Pool) (event : Event) :
    pool.next event = pool ∨
      (∃ place, place < pool.tasks.length ∧ place ∉ pool.handed ∧
        pool.next event = { pool with handed := pool.handed ++ [place] }) ∨
      (∃ place time task, pool.tasks[place]? = some task ∧ pool.end? place = none ∧
        place ∈ pool.handed ∧ pool.now ≤ time ∧
        pool.next event =
          { pool with now := time, ends := pool.ends ++ [⟨place, time, task.outcome⟩] }) ∨
      ∃ place e, pool.end? place = some e ∧
        pool.next event = { pool with slots := pool.slots.set place (some e.outcome) } := by
  cases event with
  | hand place =>
      by_cases fresh : place < pool.tasks.length ∧ place ∉ pool.handed
      · exact Or.inr (Or.inl ⟨place, fresh.1, fresh.2, by simp only [next, if_pos fresh]⟩)
      · exact Or.inl (by simp only [next, if_neg fresh])
  | finish place time =>
      cases taskAt : pool.tasks[place]? with
      | none => exact Or.inl (by simp only [next, taskAt])
      | some task =>
          cases ended : pool.end? place with
          | some e => exact Or.inl (by simp only [next, taskAt, ended])
          | none =>
              by_cases runs : place ∈ pool.handed ∧ pool.now ≤ time
              · exact Or.inr (Or.inr (Or.inl ⟨place, time, task, taskAt, ended, runs.1, runs.2,
                  by simp only [next, taskAt, ended, if_pos runs]⟩))
              · exact Or.inl (by simp only [next, taskAt, ended, if_neg runs])
  | collect place =>
      cases ended : pool.end? place with
      | none => exact Or.inl (by simp only [next, ended])
      | some e => exact Or.inr (Or.inr (Or.inr ⟨place, e, ended, by simp only [next, ended]⟩))

theorem eq_map_some_of_mapM_id {α : Type} {slots : List (Option α)} {values : List α}
    (read : slots.mapM id = some values) : slots = values.map some := by
  induction slots generalizing values with
  | nil =>
      cases read
      rfl
  | cons slot slots ih =>
      cases slot with
      | none => simp at read
      | some value =>
          cases rest : slots.mapM id with
          | none => simp [rest] at read
          | some others =>
              simp [rest] at read
              rw [← read, List.map_cons, ih rest]

theorem isSome_mapM_id {α : Type} {slots : List (Option α)}
    (full : ∀ slot ∈ slots, slot.isSome) : (slots.mapM id).isSome := by
  induction slots with
  | nil => rfl
  | cons slot slots ih =>
      obtain ⟨value, rfl⟩ := Option.isSome_iff_exists.mp (full slot List.mem_cons_self)
      obtain ⟨values, read⟩ := Option.isSome_iff_exists.mp
        (ih fun other member => full other (List.mem_cons_of_mem _ member))
      simp [read]

/-! ## What every schedule keeps -/

/-- What holds of a pool of `tasks` after every schedule. -/
structure Sound (tasks : List Started) (pool : Pool) : Prop where
  tasks_eq : pool.tasks = tasks
  /-- No task hands over its query twice. -/
  handedOnce : pool.handed.Nodup
  handedInTasks : ∀ place ∈ pool.handed, place < tasks.length
  /-- No task ends twice. -/
  once : (pool.ends.map End.place).Nodup
  /-- Each end is that of a task, with the outcome of that task. -/
  own : ∀ e ∈ pool.ends, ∃ task, tasks[e.place]? = some task ∧ e.outcome = task.outcome
  /-- No task ends that did not hand over its query. -/
  afterHand : ∀ e ∈ pool.ends, e.place ∈ pool.handed
  inOrder : pool.ends.Pairwise fun earlier later => earlier.time ≤ later.time
  past : ∀ e ∈ pool.ends, e.time ≤ pool.now
  slotCount : pool.slots.length = tasks.length
  /-- A filled slot holds the outcome with which the task of its place has ended. -/
  filled : ∀ {place : Nat} {outcome : Outcome}, pool.slots[place]? = some (some outcome) →
    ∃ e ∈ pool.ends, e.place = place ∧ e.outcome = outcome

namespace Sound

variable {tasks : List Started} {pool : Pool}

theorem spawn (tasks : List Started) : Sound tasks (spawn tasks) where
  tasks_eq := rfl
  handedOnce := List.nodup_nil
  handedInTasks := by simp [Pool.spawn]
  once := List.nodup_nil
  own := by simp [Pool.spawn]
  afterHand := by simp [Pool.spawn]
  inOrder := List.Pairwise.nil
  past := by simp [Pool.spawn]
  slotCount := by simp [Pool.spawn]
  filled := by
    intro place outcome taken
    unfold Pool.spawn at taken
    rw [List.getElem?_map] at taken
    obtain ⟨_, -, same⟩ := Option.map_eq_some_iff.mp taken
    cases same

theorem hand (sound : Sound tasks pool) {place : Nat} (inTasks : place < pool.tasks.length)
    (fresh : place ∉ pool.handed) : Sound tasks { pool with handed := pool.handed ++ [place] } where
  tasks_eq := sound.tasks_eq
  handedOnce := by
    rw [List.nodup_append]
    refine ⟨sound.handedOnce, by simp, ?_⟩
    intro a member b same
    rw [List.mem_singleton] at same
    subst same
    rintro rfl
    exact fresh member
  handedInTasks := by
    intro i member
    rcases List.mem_append.mp member with earlier | last
    · exact sound.handedInTasks i earlier
    · rw [List.mem_singleton] at last
      subst last
      rw [← sound.tasks_eq]
      exact inTasks
  once := sound.once
  own := sound.own
  afterHand := fun e member => List.mem_append_left _ (sound.afterHand e member)
  inOrder := sound.inOrder
  past := sound.past
  slotCount := sound.slotCount
  filled := sound.filled

theorem finish (sound : Sound tasks pool) {place time : Nat} {task : Started}
    (taskAt : pool.tasks[place]? = some task) (running : pool.end? place = none)
    (begun : place ∈ pool.handed) (later : pool.now ≤ time) :
    Sound tasks { pool with now := time, ends := pool.ends ++ [⟨place, time, task.outcome⟩] } where
  tasks_eq := sound.tasks_eq
  handedOnce := sound.handedOnce
  handedInTasks := sound.handedInTasks
  once := by
    have fresh : place ∉ pool.ends.map End.place := end?_eq_none_iff.mp running
    rw [List.map_append, List.nodup_append]
    refine ⟨sound.once, by simp, ?_⟩
    intro a ended b same
    rw [List.map_singleton, List.mem_singleton] at same
    subst same
    rintro rfl
    exact fresh ended
  own := by
    intro e member
    rcases List.mem_append.mp member with earlier | last
    · exact sound.own e earlier
    · rw [List.mem_singleton] at last
      subst last
      exact ⟨task, by rw [← sound.tasks_eq]; exact taskAt, rfl⟩
  afterHand := by
    intro e member
    rcases List.mem_append.mp member with earlier | last
    · exact sound.afterHand e earlier
    · rw [List.mem_singleton] at last
      subst last
      exact begun
  inOrder := by
    rw [List.pairwise_append]
    refine ⟨sound.inOrder, List.pairwise_singleton _ _, ?_⟩
    intro earlier member last same
    rw [List.mem_singleton] at same
    subst same
    exact Nat.le_trans (sound.past earlier member) later
  past := by
    intro e member
    rcases List.mem_append.mp member with earlier | last
    · exact Nat.le_trans (sound.past e earlier) later
    · rw [List.mem_singleton] at last
      subst last
      exact Nat.le_refl time
  slotCount := sound.slotCount
  filled := by
    intro i outcome taken
    obtain ⟨e, member, place, same⟩ := sound.filled taken
    exact ⟨e, List.mem_append_left _ member, place, same⟩

theorem collect (sound : Sound tasks pool) {place : Nat} {e : End}
    (ended : pool.end? place = some e) :
    Sound tasks { pool with slots := pool.slots.set place (some e.outcome) } where
  tasks_eq := sound.tasks_eq
  handedOnce := sound.handedOnce
  handedInTasks := sound.handedInTasks
  once := sound.once
  own := sound.own
  afterHand := sound.afterHand
  inOrder := sound.inOrder
  past := sound.past
  slotCount := by rw [List.length_set, sound.slotCount]
  filled := by
    intro i outcome taken
    obtain ⟨member, samePlace⟩ := end?_eq_some ended
    rw [List.getElem?_set] at taken
    split at taken
    · next here =>
      subst here
      split at taken
      · exact ⟨e, member, samePlace, by simpa using taken⟩
      · cases taken
    · exact sound.filled taken

/-- Step lemma: every event keeps a pool sound. -/
theorem next (sound : Sound tasks pool) (event : Event) : Sound tasks (pool.next event) := by
  rcases pool.next_cases event with same | ⟨place, inTasks, fresh, after⟩ |
    ⟨place, time, task, taskAt, running, begun, later, after⟩ | ⟨place, e, ended, after⟩
  · rw [same]
    exact sound
  · rw [after]
    exact sound.hand inTasks fresh
  · rw [after]
    exact sound.finish taskAt running begun later
  · rw [after]
    exact sound.collect ended

/-- Run lemma: every schedule keeps a pool sound. -/
theorem run (sound : Sound tasks pool) (events : List Event) : Sound tasks (pool.run events) := by
  induction events generalizing pool with
  | nil => exact sound
  | cons event events ih =>
      rw [run_cons]
      exact ih (sound.next event)

theorem length_outcomes (sound : Sound tasks pool) {outcomes : List Outcome}
    (joined : pool.outcomes? = some outcomes) : outcomes.length = tasks.length := by
  have slots : pool.slots = outcomes.map some := eq_map_some_of_mapM_id joined
  rw [← sound.slotCount, slots, List.length_map]

/-- The joiner that has everything has at every place the outcome with which the task there has ended. -/
theorem exists_end (sound : Sound tasks pool) {outcomes : List Outcome}
    (joined : pool.outcomes? = some outcomes) {place : Nat} (inOutcomes : place < outcomes.length) :
    ∃ e ∈ pool.ends, e.place = place ∧ e.outcome = outcomes[place] := by
  have slots : pool.slots = outcomes.map some := eq_map_some_of_mapM_id joined
  have taken : pool.slots[place]? = some (some outcomes[place]) := by
    rw [slots, List.getElem?_map, List.getElem?_eq_getElem inOutcomes]
    rfl
  exact sound.filled taken

/-- The joiner that has everything has the outcomes of the tasks, in the order of the tasks. -/
theorem outcomes_eq (sound : Sound tasks pool) {outcomes : List Outcome}
    (joined : pool.outcomes? = some outcomes) : outcomes = tasks.map Started.outcome := by
  refine List.ext_getElem (by rw [sound.length_outcomes joined, List.length_map]) ?_
  intro place inOutcomes inTasks
  obtain ⟨e, member, here, same⟩ := sound.exists_end joined inOutcomes
  obtain ⟨task, taskAt, own⟩ := sound.own e member
  rw [here] at taskAt
  obtain ⟨_, isTask⟩ := List.getElem?_eq_some_iff.mp taskAt
  rw [List.getElem_map, isTask, ← same, own]

end Sound

/-! ## What a joiner has -/

/-- The joiner has the outcome of the task at a place. -/
def HasTaken (pool : Pool) (place : Nat) : Prop :=
  ∃ outcome, pool.slots[place]? = some (some outcome)

variable {tasks : List Started} {pool : Pool} {place : Nat}

/-- A task that has ended has ended for good. -/
theorem end?_next {e : End} (ended : pool.end? place = some e) (event : Event) :
    (pool.next event).end? place = some e := by
  rcases pool.next_cases event with same | ⟨_, -, -, after⟩ | ⟨_, _, _, -, -, -, -, after⟩ |
    ⟨_, _, -, after⟩
  · rw [same]
    exact ended
  · rw [after]
    exact ended
  · rw [after]
    simp only [end?] at ended ⊢
    rw [List.find?_append, ended]
    rfl
  · rw [after]
    exact ended

theorem HasTaken.next (taken : pool.HasTaken place) (event : Event) :
    (pool.next event).HasTaken place := by
  obtain ⟨outcome, slot⟩ := taken
  rcases pool.next_cases event with same | ⟨_, -, -, after⟩ | ⟨_, _, _, -, -, -, -, after⟩ |
    ⟨other, e, -, after⟩
  · exact ⟨outcome, by rw [same]; exact slot⟩
  · exact ⟨outcome, by rw [after]; exact slot⟩
  · exact ⟨outcome, by rw [after]; exact slot⟩
  · rw [after]
    obtain ⟨inSlots, -⟩ := List.getElem?_eq_some_iff.mp slot
    by_cases here : other = place
    · subst here
      exact ⟨e.outcome, List.getElem?_set_self inSlots⟩
    · exact ⟨outcome, by rw [List.getElem?_set_ne here]; exact slot⟩

theorem HasTaken.run (taken : pool.HasTaken place) (events : List Event) :
    (pool.run events).HasTaken place := by
  induction events generalizing pool with
  | nil => exact taken
  | cons event events ih =>
      rw [run_cons]
      exact ih (taken.next event)

theorem Sound.hasTaken_collect (sound : Sound tasks pool) (inTasks : place < tasks.length)
    (ended : (pool.end? place).isSome) : (pool.next (.collect place)).HasTaken place := by
  obtain ⟨e, found⟩ := Option.isSome_iff_exists.mp ended
  have inSlots : place < pool.slots.length := by rw [sound.slotCount]; exact inTasks
  simp only [Pool.next, found]
  exact ⟨e.outcome, List.getElem?_set_self inSlots⟩

theorem Sound.isSome_outcomes? (sound : Sound tasks pool)
    (taken : ∀ place < tasks.length, pool.HasTaken place) : pool.outcomes?.isSome := by
  refine isSome_mapM_id ?_
  intro slot member
  obtain ⟨place, inSlots, rfl⟩ := List.getElem_of_mem member
  obtain ⟨outcome, slot⟩ := taken place (by rw [← sound.slotCount]; exact inSlots)
  rw [List.getElem?_eq_getElem inSlots] at slot
  rw [Option.some.inj slot]
  rfl

theorem Sound.hasTaken_run_collects (sound : Sound tasks pool) {places : List Nat}
    (ended : ∀ place ∈ places, place < tasks.length ∧ (pool.end? place).isSome) :
    ∀ place ∈ places, (pool.run (places.map .collect)).HasTaken place := by
  induction places generalizing pool with
  | nil =>
      intro place member
      cases member
  | cons first places ih =>
      obtain ⟨inTasks, firstEnded⟩ := ended first List.mem_cons_self
      intro place member
      rw [List.map_cons, run_cons]
      rcases List.mem_cons.mp member with rfl | member
      · exact (sound.hasTaken_collect inTasks firstEnded).run _
      · refine ih (sound.next _) ?_ place member
        intro other inside
        obtain ⟨otherInTasks, otherEnded⟩ := ended other (List.mem_cons_of_mem _ inside)
        obtain ⟨e, found⟩ := Option.isSome_iff_exists.mp otherEnded
        exact ⟨otherInTasks, by rw [end?_next found]; rfl⟩

/-- Once every task has ended, a look at each makes the joiner done. -/
theorem Sound.isSome_outcomes?_looks (sound : Sound tasks pool)
    (ended : ∀ place < tasks.length, (pool.end? place).isSome) :
    (pool.run (looks tasks.length)).outcomes?.isSome := by
  refine (sound.run _).isSome_outcomes? ?_
  intro place inTasks
  refine sound.hasTaken_run_collects ?_ place (List.mem_range.mpr inTasks)
  intro other member
  exact ⟨List.mem_range.mp member, ended other (List.mem_range.mp member)⟩

/-! ## What can always happen -/

/-- A task that has not handed over its query can do so, whatever became of the others. -/
theorem Sound.next_hand (sound : Sound tasks pool) (inTasks : place < tasks.length)
    (fresh : place ∉ pool.handed) :
    pool.next (.hand place) = { pool with handed := pool.handed ++ [place] } := by
  rw [← sound.tasks_eq] at inTasks
  simp only [Pool.next, if_pos (And.intro inTasks fresh)]

/-- A task that runs can end at any time that has come, whatever became of the others. -/
theorem Sound.next_finish (sound : Sound tasks pool) {task : Started}
    (taskAt : tasks[place]? = some task) (begun : place ∈ pool.handed)
    (running : pool.end? place = none) {time : Nat} (later : pool.now ≤ time) :
    pool.next (.finish place time) =
      { pool with now := time, ends := pool.ends ++ [⟨place, time, task.outcome⟩] } := by
  rw [← sound.tasks_eq] at taskAt
  simp only [Pool.next, taskAt, running, if_pos (And.intro begun later)]

/-- First turns in order leave nothing but themselves behind. -/
theorem run_hands {count : Nat} (inTasks : count ≤ tasks.length) :
    (spawn tasks).run (hands count) = { spawn tasks with handed := List.range count } := by
  induction count with
  | zero => rfl
  | succ count ih =>
      have sound := (Sound.spawn tasks).run (hands count)
      have before := ih (Nat.le_of_succ_le inTasks)
      rw [before] at sound
      have last := sound.next_hand (Nat.lt_of_succ_le inTasks) (by simp)
      rw [hands, List.range_succ, List.map_append, run_append, ← hands, before, List.map_singleton,
        run_cons, last, run_nil]

/-- The turn of a task that runs: it ends, and the joiner has its outcome. -/
theorem Sound.run_turn (sound : Sound tasks pool) {task : Started}
    (taskAt : tasks[place]? = some task) (begun : place ∈ pool.handed)
    (running : pool.end? place = none) {time : Nat} (later : pool.now ≤ time) :
    pool.run (turn (place, time)) =
      { pool with
        now := time
        ends := pool.ends ++ [⟨place, time, task.outcome⟩]
        slots := pool.slots.set place (some task.outcome) } := by
  have ended : (pool.ends ++ [End.mk place time task.outcome]).find? (fun e => e.place == place) =
      some ⟨place, time, task.outcome⟩ := by
    rw [end?] at running
    rw [List.find?_append, running]
    simp
  rw [turn, run_cons, run_cons, run_nil, sound.next_finish taskAt begun running later]
  simp only [Pool.next, end?, ended]

/-! ## Orders of ends -/

/-- An order in which some tasks can end: every place once, at times that do not run backwards. -/
structure IsOrder (tasks : List Started) (order : List (Nat × Nat)) : Prop where
  places : (order.map Prod.fst).Perm (List.range tasks.length)
  times : order.Pairwise fun earlier later => earlier.2 ≤ later.2

/-- Tasks that run and are told to end in an order do so, and the joiner has the outcome of each. -/
theorem Sound.run_turns (sound : Sound tasks pool) {order : List (Nat × Nat)}
    (times : order.Pairwise fun earlier later => earlier.2 ≤ later.2)
    (places : (order.map Prod.fst).Nodup)
    (runs : ∀ entry ∈ order, entry.1 ∈ pool.handed ∧ pool.end? entry.1 = none ∧ pool.now ≤ entry.2) :
    ((pool.run (order.flatMap turn)).ends.map fun e => (e.place, e.time)) =
        (pool.ends.map fun e => (e.place, e.time)) ++ order ∧
      ∀ entry ∈ order, (pool.run (order.flatMap turn)).HasTaken entry.1 := by
  induction order generalizing pool with
  | nil => exact ⟨(List.append_nil _).symm, fun entry member => absurd member List.not_mem_nil⟩
  | cons first order ih =>
      obtain ⟨place, time⟩ := first
      rw [List.pairwise_cons] at times
      rw [List.map_cons, List.nodup_cons] at places
      obtain ⟨begun, running, later⟩ := runs _ List.mem_cons_self
      have inTasks := sound.handedInTasks place begun
      have after := sound.run_turn (List.getElem?_eq_getElem inTasks) begun running later
      have rest := ih (sound.run (turn (place, time))) times.2 places.2 ?_
      · rw [List.flatMap_cons, run_append]
        refine ⟨?_, ?_⟩
        · rw [rest.1, after]
          simp
        · intro entry member
          rcases List.mem_cons.mp member with rfl | member
          · refine HasTaken.run ?_ _
            rw [after]
            exact ⟨_, List.getElem?_set_self (by rw [sound.slotCount]; exact inTasks)⟩
          · exact rest.2 entry member
      · intro entry member
        obtain ⟨entryBegun, entryRunning, -⟩ := runs entry (List.mem_cons_of_mem _ member)
        have elsewhere : place ≠ entry.1 := by
          intro same
          exact places.1 (List.mem_map.mpr ⟨entry, member, same.symm⟩)
        rw [after]
        refine ⟨entryBegun, ?_, times.1 entry member⟩
        simp only [end?] at entryRunning ⊢
        rw [List.find?_append, entryRunning]
        simpa using elsewhere

/-- In every order in which the tasks can end there is a schedule, and at its end the joiner is done. -/
theorem IsOrder.run {order : List (Nat × Nat)} (fits : IsOrder tasks order) :
    (((spawn tasks).run (scheduleOf tasks.length order)).ends.map fun e => (e.place, e.time)) = order ∧
      ((spawn tasks).run (scheduleOf tasks.length order)).outcomes?.isSome := by
  have sound := (Sound.spawn tasks).run (hands tasks.length)
  have handed := run_hands (Nat.le_refl tasks.length)
  have nodup : (order.map Prod.fst).Nodup := fits.places.nodup_iff.mpr List.nodup_range
  have turns := sound.run_turns fits.times nodup (by
    intro entry member
    have place := fits.places.mem_iff.mp (List.mem_map_of_mem member)
    rw [handed]
    exact ⟨place, rfl, Nat.zero_le _⟩)
  rw [scheduleOf, run_append]
  refine ⟨?_, (sound.run (order.flatMap turn)).isSome_outcomes? ?_⟩
  · rw [turns.1, handed]
    rfl
  · intro place inTasks
    obtain ⟨entry, member, rfl⟩ :=
      List.mem_map.mp (fits.places.mem_iff.mpr (List.mem_range.mpr inTasks))
    exact turns.2 entry member

/-! ## The schedule of the delays -/

theorem pairwise_mergeSort_by {α : Type} (key : α → Nat) (items : List α) :
    (items.mergeSort fun a b => key a ≤ key b).Pairwise fun a b => key a ≤ key b := by
  refine List.Pairwise.imp (fun ordered => of_decide_eq_true ordered)
    (List.pairwise_mergeSort ?_ ?_ items)
  · intro a b c first second
    simp only [decide_eq_true_eq] at first second ⊢
    exact Nat.le_trans first second
  · intro a b
    simp only [Bool.or_eq_true, decide_eq_true_eq]
    exact Nat.le_total _ _

/-- The order of the delays is one in which the tasks can end. -/
theorem isOrder_byDelay (tasks : List Started) : IsOrder tasks (byDelay tasks) where
  places := by
    have sorted := List.mergeSort_perm
      (tasks.zipIdx.map fun (task, place) => (place, task.behaviour.delay)) fun a b => a.2 ≤ b.2
    refine (sorted.map Prod.fst).trans ?_
    rw [List.map_map, List.range_eq_range', ← List.zipIdx_map_snd 0 tasks]
    exact List.Perm.refl _
  times := pairwise_mergeSort_by Prod.snd _

theorem isSome_outcomes?_settled (tasks : List Started) : (settled tasks).outcomes?.isSome :=
  (isOrder_byDelay tasks).run.2

/-- What the joiner of some tasks has when all their delays are over. -/
def joined (tasks : List Started) : List Outcome :=
  (settled tasks).outcomes?.get (isSome_outcomes?_settled tasks)

/-- Whatever the delays, the joiner has the outcomes in the order of the tasks. -/
@[simp] theorem joined_eq (tasks : List Started) : joined tasks = tasks.map Started.outcome :=
  ((Sound.spawn tasks).run (schedule tasks)).outcomes_eq
    (Option.some_get (isSome_outcomes?_settled tasks)).symm

end Pool

end QueryGateway.GraphQL
