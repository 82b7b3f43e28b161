import Mathlib.Data.List.TakeWhile
import QueryGateway.Proofs.Reloads
import QueryGateway.Proofs.ShutdownSignals
import QueryGateway.Server.Running

/-!
# A server until its end

A running server stops when the signal to stop is given, or nobody is left who could give it, and at nothing else.
Until then it answers every request as a new server would that was built from its own configuration with the switch
for batches of the last configuration that was sent before their sending came to an end.  Afterwards it answers
nothing; its other task goes on, and a configuration that is sent still sets the options of the handler.
The two tasks do not disturb each other: whichever of them goes first, they end up in the same state.
-/

namespace QueryGateway.Server.Running

open Http GraphQL

/-! ## Two tasks -/

section

variable {running : Running}

theorem work_accept_of_ready (goesOn : running.stopped = false) (ready : running.shutdown.sight 0 = .ready) :
    running.work .accept = { running with shutdown := running.shutdown.poll 0, stopped := true } := by
  unfold work
  dsimp only
  rw [goesOn, ready]
  rfl

/-- The task that accepts requests does nothing unless it is to stop now. -/
theorem work_accept_of_waits (waits : running.stopped = true ∨ running.shutdown.sight 0 ≠ .ready) :
    running.work .accept = running := by
  unfold work
  dsimp only
  split
  · rfl
  · next goesOn =>
    cases sees : running.shutdown.sight 0 with
    | ready => exact absurd sees (waits.resolve_left goesOn)
    | pending | gone => rfl

theorem work_accept_cases (running : Running) :
    (running.stopped = false ∧ running.shutdown.sight 0 = .ready) ∨
      (running.stopped = true ∨ running.shutdown.sight 0 ≠ .ready) := by
  cases running.stopped <;> by_cases ready : running.shutdown.sight 0 = .ready <;> simp [ready]

theorem work_accept_accept (running : Running) : (running.work .accept).work .accept = running.work .accept := by
  rcases running.work_accept_cases with ⟨goesOn, ready⟩ | waits
  · rw [work_accept_of_ready goesOn ready]
    exact work_accept_of_waits (Or.inl rfl)
  · rw [work_accept_of_waits waits, work_accept_of_waits waits]

/-- The server once all configurations are applied that were sent. -/
def followed (running : Running) : Running :=
  { running with server := running.pending.foldl reconfigure running.server, pending := [] }

theorem settle_eq (running : Running) : running.settle = running.followed.work .accept := by
  have follows : ∀ (pending : List Config) (server : Server),
      (pending.map fun _ => Task.follow).foldl work { running with server, pending } =
        { running with server := pending.foldl reconfigure server, pending := [] } := by
    intro pending
    induction pending with
    | nil => exact fun _ => rfl
    | cons config pending ih => exact fun server => ih (server.reconfigure config)
  rw [settle, List.foldl_append, follows running.pending running.server]
  rfl

theorem settle_of_idle (idle : running.pending = []) : running.settle = running.work .accept := by
  rw [settle, idle]
  rfl

/-- The tasks do not disturb each other. -/
theorem followed_work_accept (running : Running) : (running.work .accept).followed = running.followed.work .accept := by
  obtain ⟨server, reachable, pending, updatesOpen, shutdown, stopped⟩ := running
  cases stopped with
  | true => rfl
  | false =>
      simp only [work, followed]
      cases shutdown.sight 0 <;> rfl

/-- What a task does is done by the time that all tasks wait. -/
theorem settle_work (running : Running) (task : Task) : (running.work task).settle = running.settle := by
  cases task with
  | accept => rw [settle_eq, settle_eq, followed_work_accept, work_accept_accept]
  | follow =>
      obtain ⟨server, reachable, pending, updatesOpen, shutdown, stopped⟩ := running
      cases pending with
      | nil | cons => rfl

/-- In whatever order the tasks work, once both wait they have come to the same state. -/
theorem settled_in_any_order {running : Running} {tasks : List Task}
    (idle : ∀ task, (tasks.foldl work running).work task = tasks.foldl work running) :
    tasks.foldl work running = running.settle := by
  have same : (tasks.foldl work running).settle = running.settle := by
    clear idle
    induction tasks generalizing running with
    | nil => rfl
    | cons task tasks ih => exact ih.trans (running.settle_work task)
  have nothing : (tasks.foldl work running).pending = [] := by
    have follow := congrArg (List.length ∘ Running.pending) (idle .follow)
    cases pending : (tasks.foldl work running).pending with
    | nil => rfl
    | cons config rest =>
        rw [Function.comp_apply, work, pending] at follow
        rw [Function.comp_apply, pending] at follow
        exact absurd follow.symm (Nat.succ_ne_self _)
  rw [← same, settle_of_idle nothing, idle .accept]

end

/-! ## What has happened -/

/-- What events are to the signal on which the server stops. -/
def signals (events : List Event) : List Lifecycle.Shutdown.Event := events.filterMap Event.signal?

/-- The server is to stop: the signal was given, or there is nobody left who could give it. -/
def Ended (events : List Event) : Prop :=
  awaited.Meets Lifecycle.Shutdown.Fires (signals events) ∨
    ∀ handle, (awaited.run (signals events)).hasHandle handle = false

/-- Whether no configuration can be sent any more after an event. -/
def Event.closes : Event → Bool
  | .closeUpdates => true
  | .request _ _ => false
  | .update _ => false
  | .trigger _ => false
  | .clone _ => false
  | .drop _ => false

/-- The configuration that an event sends, if it can be sent. -/
def Event.update? : Event → Option Config
  | .update config => some config
  | .request _ _ => none
  | .closeUpdates => none
  | .trigger _ => none
  | .clone _ => none
  | .drop _ => none

/-- The last configuration that was sent while any could be sent, or else the one before. -/
def lastSent (config : Config) (events : List Event) : Config :=
  lastWritten Event.update? config (events.takeWhile fun event => !event.closes)

section

variable {events : List Event} {event : Event}

theorem signals_concat_of_none (silent : event.signal? = none) : signals (events ++ [event]) = signals events := by
  rw [signals, List.filterMap_append, List.filterMap_cons_none silent, List.filterMap_nil, List.append_nil]
  rfl

theorem signals_concat_of_some {signal : Lifecycle.Shutdown.Event} (given : event.signal? = some signal) :
    signals (events ++ [event]) = signals events ++ [signal] := by
  rw [signals, List.filterMap_append, List.filterMap_cons_some given, List.filterMap_nil]
  rfl

theorem ended_concat_of_none (silent : event.signal? = none) : Ended (events ++ [event]) ↔ Ended events := by
  rw [Ended, signals_concat_of_none silent]
  rfl

/-- The end is final. -/
theorem ended_concat (ended : Ended events) (event : Event) : Ended (events ++ [event]) := by
  cases given : event.signal? with
  | none => exact (ended_concat_of_none given).mpr ended
  | some signal =>
      unfold Ended
      rw [signals_concat_of_some given]
      rcases ended with fired | abandoned
      · exact Or.inl (Lifecycle.Shutdown.meets_append.mpr (Or.inl fired))
      · refine Or.inr fun handle => ?_
        rw [Lifecycle.Shutdown.run_append]
        exact Lifecycle.Shutdown.hasHandle_next_of_abandoned abandoned signal handle

/-- The waiter of the server leaves at none of the events. -/
theorem not_meets_leaves (shutdown : Lifecycle.Shutdown) (events : List Event) :
    ¬shutdown.Meets (Lifecycle.Shutdown.Leaves 0) (signals events) := by
  induction events generalizing shutdown with
  | nil => exact not_false
  | cons event events ih =>
      cases given : event.signal? with
      | none =>
          rw [signals, List.filterMap_cons_none given]
          exact ih shutdown
      | some signal =>
          rw [signals, List.filterMap_cons_some given]
          rintro (leaves | meets)
          · cases event <;> cases given <;> rcases leaves with leaves | ⟨leaves, -⟩ <;> cases leaves
          · exact ih _ meets

/-- The waiter of the server is released exactly at the end. -/
theorem sight_eq_ready_iff (events : List Event) :
    (awaited.run (signals events)).sight 0 = .ready ↔ Ended events := by
  have awaits : awaited.Awaits 0 awaited.channel.sent := by
    rfl
  have sees := Lifecycle.Shutdown.seesSignals_of_awaits awaits (signals events)
  exact sees.ready.trans (and_iff_right (not_meets_leaves awaited events))

/-- Configurations can be sent as long as their sending was not closed. -/
theorem takeWhile_closes_eq_self_iff :
    (events.takeWhile fun event => !event.closes) = events ↔ events.any Event.closes = false := by
  rw [List.takeWhile_eq_self_iff]
  simp

theorem lastSent_concat_of_open (still : events.any Event.closes = false) (config : Config) (event : Event) :
    lastSent config (events ++ [event]) = event.update?.getD (lastSent config events) := by
  have all := takeWhile_closes_eq_self_iff.mpr still
  unfold lastSent
  rw [List.takeWhile_append, if_pos (congrArg List.length all), all]
  cases closes : event.closes with
  | true =>
      cases event <;> cases closes
      simp [List.takeWhile, Event.closes, Event.update?]
  | false =>
      rw [List.takeWhile_cons_of_pos (by rw [closes]; rfl), List.takeWhile_nil]
      exact lastWritten_concat config events event

theorem lastSent_concat_of_closed (closed : events.any Event.closes = true) (config : Config) (event : Event) :
    lastSent config (events ++ [event]) = lastSent config events := by
  have some : (events.takeWhile fun event => !event.closes).length ≠ events.length := by
    intro all
    have still := takeWhile_closes_eq_self_iff.mp ((List.takeWhile_prefix _).eq_of_length all)
    exact Bool.false_ne_true (still.symm.trans closed)
  unfold lastSent
  rw [List.takeWhile_append, if_neg some]

theorem lastSent_concat_of_none (silent : event.update? = none) (config : Config) :
    lastSent config (events ++ [event]) = lastSent config events := by
  cases closed : events.any Event.closes with
  | true => exact lastSent_concat_of_closed closed config event
  | false =>
      rw [lastSent_concat_of_open closed, silent]
      rfl

theorem any_closes_concat (events : List Event) (event : Event) :
    (events ++ [event]).any Event.closes = (events.any Event.closes || event.closes) := by
  rw [List.any_append, List.any_cons, List.any_nil, Bool.or_false]

end

/-! ## What a step makes of a server -/

/-- The task that applies configurations has applied all that were sent to a server of a configuration and providers
in the course of events. -/
structure Follows (config : Config) (route : Route) (providers : Providers) (events : List Event)
    (running : Running) : Prop where
  idle : running.pending = []
  updatesOpen : running.updatesOpen = !events.any Event.closes
  ownConfig : running.server.config = config
  route : running.server.route = route
  handler : running.server.handler = ⟨(lastSent config events).graphql.options, providers⟩

/-- The task that accepts requests has stopped if it was to stop in the course of events. -/
structure Listens (events : List Event) (running : Running) : Prop where
  signal : running.stopped = false → running.shutdown = awaited.run (signals events)
  stopped : running.stopped = true ↔ Ended events

/-- How a server stands after events. -/
structure Stands (config : Config) (route : Route) (providers : Providers) (events : List Event)
    (running : Running) : Prop where
  reachable : running.reachable = true
  follows : Follows config route providers events running
  listens : Listens events running

/-- Something happens to the signal on which a server stops. -/
def hearing (running : Running) (signal : Lifecycle.Shutdown.Event) : Running :=
  { running with shutdown := running.shutdown.next signal }

section

variable {config : Config} {route : Route} {providers : Providers} {events : List Event} {event : Event}
  {running after : Running}

/-- What concerns no configuration changes nothing of the server that follows them. -/
theorem Follows.concat (follows : Follows config route providers events running) (silent : event.update? = none)
    (closes : event.closes = false) (idle : after.pending = running.pending)
    (updatesOpen : after.updatesOpen = running.updatesOpen) (ownConfig : after.server.config = running.server.config)
    (routeSame : after.server.route = running.server.route) (handler : after.server.handler = running.server.handler) :
    Follows config route providers (events ++ [event]) after := by
  refine ⟨idle.trans follows.idle, ?_, ownConfig.trans follows.ownConfig, routeSame.trans follows.route, ?_⟩
  · rw [any_closes_concat, closes, Bool.or_false, updatesOpen]
    exact follows.updatesOpen
  · rw [lastSent_concat_of_none silent, handler]
    exact follows.handler

/-- What concerns no signal changes nothing for the server that listens to it. -/
theorem Listens.concat (listens : Listens events running) (silent : event.signal? = none)
    (shutdown : after.shutdown = running.shutdown) (stopped : after.stopped = running.stopped) :
    Listens (events ++ [event]) after := by
  refine ⟨fun goesOn => ?_, ?_⟩
  · rw [signals_concat_of_none silent, shutdown]
    exact listens.signal (stopped.symm.trans goesOn)
  · rw [ended_concat_of_none silent, stopped]
    exact listens.stopped

theorem Listens.waits (listens : Listens events running) :
    running.stopped = true ∨ running.shutdown.sight 0 ≠ .ready := by
  cases stopped : running.stopped with
  | true => exact Or.inl rfl
  | false =>
      refine Or.inr fun ready => ?_
      rw [listens.signal stopped, sight_eq_ready_iff, ← listens.stopped, stopped] at ready
      exact Bool.false_ne_true ready

/-- Nobody is answered after the stop; until then the server answers. -/
theorem step_request (engine : Engine) (reachable : running.reachable = true) (request : Request) (fresh : Bytes) :
    running.step engine (.request request fresh) =
      if running.stopped then (.refused, running)
      else (.reply (running.server.serve engine fresh (arriving request)).1,
        { running with server := (running.server.serve engine fresh (arriving request)).2.2 }) := by
  unfold step
  dsimp only
  rw [reachable, Bool.not_true, Bool.or_false]

/-- A configuration that is sent is applied, if any can be sent. -/
theorem step_update (follows : Follows config route providers events running) (listens : Listens events running)
    (engine : Engine) (sent : Config) :
    (running.step engine (.update sent)).2 =
      if running.updatesOpen then { running with server := running.server.reconfigure sent } else running := by
  have waits := listens.waits
  obtain ⟨server, reachable, pending, updatesOpen, shutdown, stopped⟩ := running
  obtain rfl : pending = [] := follows.idle
  cases updatesOpen with
  | false => exact (settle_of_idle rfl).trans (work_accept_of_waits waits)
  | true => exact (settle_eq _).trans (work_accept_of_waits waits)

/-- Whatever happens to the signal, only the task that accepts requests looks at it. -/
theorem step_signal (idle : running.pending = []) (engine : Engine) {signal : Lifecycle.Shutdown.Event}
    (given : event.signal? = some signal) :
    running.step engine event =
      (if running.stopped then .alreadyStopped
        else if ((running.hearing signal).work .accept).stopped then .stopped else .goesOn,
        (running.hearing signal).work .accept) := by
  have settled : (running.hearing signal).settle = (running.hearing signal).work .accept := settle_of_idle idle
  unfold hearing at settled ⊢
  cases event with
  | request | update | closeUpdates => cases given
  | trigger | clone | drop =>
      cases given
      rw [step, step.signal, settled]

/-- Looking at the signal changes nothing but whether the server has stopped. -/
theorem work_accept_frame (running : Running) :
    (running.work .accept).server = running.server ∧ (running.work .accept).reachable = running.reachable ∧
      (running.work .accept).pending = running.pending ∧
      (running.work .accept).updatesOpen = running.updatesOpen := by
  rcases running.work_accept_cases with ⟨goesOn, ready⟩ | waits
  · rw [work_accept_of_ready goesOn ready]
    exact ⟨rfl, rfl, rfl, rfl⟩
  · rw [work_accept_of_waits waits]
    exact ⟨rfl, rfl, rfl, rfl⟩

theorem follows_update (follows : Follows config route providers events running) (sent : Config) :
    Follows config route providers (events ++ [.update sent])
      (if running.updatesOpen then { running with server := running.server.reconfigure sent } else running) := by
  cases closed : events.any Event.closes with
  | true =>
      have shut : running.updatesOpen = false := follows.updatesOpen.trans (congrArg not closed)
      rw [if_neg (Bool.eq_false_iff.mp shut)]
      refine ⟨follows.idle, ?_, follows.ownConfig, follows.route, ?_⟩
      · rw [any_closes_concat, closed]
        exact shut
      · rw [lastSent_concat_of_closed closed]
        exact follows.handler
  | false =>
      have still : running.updatesOpen = true := follows.updatesOpen.trans (congrArg not closed)
      rw [if_pos still]
      refine ⟨follows.idle, ?_, follows.ownConfig, follows.route, ?_⟩
      · rw [any_closes_concat, closed]
        exact still
      · rw [lastSent_concat_of_open closed]
        exact congrArg (fun handler => handler.change (.options sent.graphql.options)) follows.handler

/-- The server stops as soon as its waiter is released. -/
theorem listens_signal (listens : Listens events running) {signal : Lifecycle.Shutdown.Event}
    (given : event.signal? = some signal) :
    Listens (events ++ [event]) ((running.hearing signal).work .accept) := by
  rcases Bool.eq_false_or_eq_true running.stopped with stopped | goesOn
  · have before : (running.hearing signal).stopped = true := stopped
    rw [work_accept_of_waits (Or.inl before)]
    refine ⟨fun goesOn => ?_, iff_of_true before (ended_concat (listens.stopped.mp stopped) event)⟩
    exact absurd (before.symm.trans goesOn) nofun
  · have before : (running.hearing signal).stopped = false := goesOn
    have now : (running.hearing signal).shutdown = awaited.run (signals (events ++ [event])) := by
      rw [signals_concat_of_some given, Lifecycle.Shutdown.run_append, ← listens.signal goesOn]
      rfl
    have sees := sight_eq_ready_iff (events ++ [event])
    rw [← now] at sees
    by_cases ready : (running.hearing signal).shutdown.sight 0 = .ready
    · rw [work_accept_of_ready before ready]
      exact ⟨nofun, iff_of_true rfl (sees.mp ready)⟩
    · rw [work_accept_of_waits (Or.inr ready)]
      exact ⟨fun _ => now, iff_of_false (Bool.eq_false_iff.mp before) (mt sees.mpr ready)⟩

/-- What happens to the signal does not concern the task that applies configurations. -/
theorem stands_signal (stands : Stands config route providers events running) {signal : Lifecycle.Shutdown.Event}
    (given : event.signal? = some signal) :
    Stands config route providers (events ++ [event]) ((running.hearing signal).work .accept) := by
  obtain ⟨reachable, follows, listens⟩ := stands
  obtain ⟨server, reachableSame, pending, updatesOpen⟩ := work_accept_frame (running.hearing signal)
  have silent : event.update? = none ∧ event.closes = false := by
    cases event with
    | request | update | closeUpdates => cases given
    | trigger | clone | drop => exact ⟨rfl, rfl⟩
  exact ⟨reachableSame.trans reachable,
    follows.concat silent.1 silent.2 pending updatesOpen (congrArg Server.config server)
      (congrArg Server.route server) (congrArg Server.handler server),
    listens_signal listens given⟩

/-- Every event concerns one of the two tasks at most. -/
theorem stands_step (stands : Stands config route providers events running) (engine : Engine) (event : Event) :
    Stands config route providers (events ++ [event]) (running.step engine event).2 := by
  cases given : event.signal? with
  | some signal =>
      rw [step_signal stands.follows.idle engine given]
      exact stands_signal stands given
  | none =>
      obtain ⟨reachable, follows, listens⟩ := stands
      cases event with
      | request request fresh =>
          obtain ⟨ownConfig, route, handler, -⟩ :=
            (running.server.served_serve engine fresh (arriving request)).frame
          rw [step_request engine reachable]
          split
          · exact ⟨reachable, follows.concat rfl rfl rfl rfl rfl rfl rfl, listens.concat rfl rfl rfl⟩
          · exact ⟨reachable, follows.concat rfl rfl rfl rfl ownConfig route handler, listens.concat rfl rfl rfl⟩
      | update sent =>
          have updated := follows_update follows sent
          rw [step_update follows listens]
          refine ⟨?_, updated, ?_⟩
          · split <;> exact reachable
          · split <;> exact listens.concat rfl rfl rfl
      | closeUpdates =>
          refine ⟨reachable, ⟨follows.idle, ?_, follows.ownConfig, follows.route, ?_⟩, listens.concat rfl rfl rfl⟩
          · rw [any_closes_concat]
            exact (congrArg not (Bool.or_true _)).symm
          · rw [lastSent_concat_of_none rfl]
            exact follows.handler
      | trigger | clone | drop => cases given

/-- A server that was built and given providers follows configurations, and listens, from its start on. -/
theorem stands_start {built : Server} (new : new? config = some built) (providers : Providers) :
    Stands config built.route providers [] (start (built.install providers) true) := by
  obtain ⟨parsed, -, rfl⟩ := Option.map_eq_some_iff.mp new
  have waits : ¬Ended [] := by
    rintro (fired | abandoned)
    · exact fired
    · exact absurd (abandoned 0) (by decide)
  exact ⟨rfl, ⟨rfl, rfl, rfl, rfl, rfl⟩, fun _ => rfl, iff_of_false nofun waits⟩

theorem run_concat (engine : Engine) (running : Running) (events : List Event) (event : Event) :
    (running.run engine (events ++ [event])).2 = ((running.run engine events).2.step engine event).2 := by
  induction events generalizing running with
  | nil => rfl
  | cons first events ih => exact ih (running.step engine first).2

theorem stands_run {built : Server} (new : new? config = some built) (providers : Providers) (engine : Engine)
    (events : List Event) :
    Stands config built.route providers events ((start (built.install providers) true).run engine events).2 := by
  induction events using List.reverseRecOn with
  | nil => exact stands_start new providers
  | append_singleton events event ih =>
      rw [run_concat]
      exact stands_step ih engine event

end

/-! ## Until the end, and after it -/

/-- A server that serves requests under a configuration with the switch for batches of another one. -/
structure Serves (config : Config) (providers : Providers) (inForce : Config) (engine : Engine)
    (running : Running) : Prop where
  /-- Every request is answered as by a new server of that configuration. -/
  request : ∃ rebuilt, new? (config.withBatching inForce.graphql.batching) = some rebuilt ∧
    ∀ request fresh,
      let served := running.server.serve engine fresh (arriving request)
      running.step engine (.request request fresh) = (.reply served.1, { running with server := served.2.2 }) ∧
        ServedAlike running.server (rebuilt.install providers) served
          ((rebuilt.install providers).serve (engine.after running.server.clock.started) fresh (arriving request))
  /-- The server goes on, unless it is told to stop. -/
  goesOn : ∀ event : Event, event.signal? = none → (running.step engine event).2.stopped = false

/-- A server that has stopped. -/
structure Over (engine : Engine) (running : Running) : Prop where
  request : ∀ request fresh, running.step engine (.request request fresh) = (.refused, running)
  /-- Nothing changes for the server whatever becomes of the handles. -/
  signal : ∀ (event : Event) (signal : Lifecycle.Shutdown.Event), event.signal? = some signal →
    running.step engine event = (.alreadyStopped, running.hearing signal)
  /-- What is sent still sets the options of the handler, and nothing else. -/
  update : ∀ sent, (running.step engine (.update sent)).2 =
    if running.updatesOpen then { running with server := running.server.reconfigure sent } else running
  closeUpdates : running.step engine .closeUpdates = (.closed, { running with updatesOpen := false })

theorem serves_of_stands {config : Config} {built : Server} (new : new? config = some built) {providers : Providers}
    {events : List Event} {running : Running} (stands : Stands config built.route providers events running)
    (goesOn : running.stopped = false) (engine : Engine) :
    Serves config providers (lastSent config events) engine running := by
  obtain ⟨reachable, follows, listens⟩ := stands
  obtain ⟨route, parsed, rfl⟩ := Option.map_eq_some_iff.mp new
  have routeSame : running.server.route = route := follows.route
  refine ⟨⟨_, Option.map_eq_some_iff.mpr ⟨route, parsed, rfl⟩, ?_⟩, ?_⟩
  · intro request fresh served
    refine ⟨?_, Mirrors.serve ⟨routeSame.symm, follows.handler.symm, ?_, ?_, ?_⟩ fresh (arriving request)⟩
    · rw [step_request engine reachable, goesOn]
      rfl
    · rw [follows.ownConfig]
      rfl
    · rw [follows.ownConfig]
      rfl
    · intro place execution
      -- the server that is built anew has started nothing yet
      show engine (running.server.clock.started + (0 + place)) execution =
        engine (running.server.clock.started + place) execution
      rw [Nat.zero_add]
  · intro event silent
    have after := stands_step ⟨reachable, follows, listens⟩ engine event
    refine Bool.eq_false_iff.mpr fun stopped => ?_
    rw [after.listens.stopped, ended_concat_of_none silent, ← listens.stopped, goesOn] at stopped
    exact Bool.false_ne_true stopped

theorem over_of_stands {config : Config} {route : Route} {providers : Providers} {events : List Event}
    {running : Running} (stands : Stands config route providers events running) (stopped : running.stopped = true)
    (engine : Engine) : Over engine running := by
  obtain ⟨reachable, follows, listens⟩ := stands
  refine ⟨fun request fresh => refused_of_stopped stopped engine request fresh, ?_,
    step_update follows listens engine, rfl⟩
  intro event signal given
  have before : (running.hearing signal).stopped = true := stopped
  rw [step_signal follows.idle engine given, work_accept_of_waits (Or.inl before), if_pos stopped]

/-- Whatever happens to a server that has stopped, only its handler follows. -/
theorem Over.server_step {engine : Engine} {running : Running} (isOver : Over engine running) (event : Event) :
    (running.step engine event).2.server =
      { running.server with handler := (running.step engine event).2.server.handler } := by
  cases event with
  | request request fresh => rw [isOver.request]
  | update sent =>
      rw [isOver.update]
      split <;> rfl
  | closeUpdates => rw [isOver.closeUpdates]
  | trigger handle => rw [isOver.signal _ (.trigger handle) rfl, hearing]
  | clone handle => rw [isOver.signal _ (.clone handle) rfl, hearing]
  | drop handle => rw [isOver.signal _ (.drop handle) rfl, hearing]

/-- A server that was started with a configuration and providers has stopped if and only if it was told to stop, or
nobody was left who could tell it.  Until then it goes on whatever configurations are sent or not sent any more, and
answers every request as a new server would that was built from its own configuration with the switch for batches of
the last configuration that was sent before their sending was closed.  Afterwards every request is refused, and nothing
changes for the server whatever becomes of the handles; of the configurations that are sent, the options of its handler
are set as before, and nothing else. -/
theorem stops_on_signal_only {config : Config} {built : Server} (new : new? config = some built)
    (providers : Providers) (engine : Engine) (events : List Event) :
    let running := ((start (built.install providers) true).run engine events).2
    (running.stopped = true ↔ Ended events) ∧
      (¬Ended events → Serves config providers (lastSent config events) engine running) ∧
      (Ended events → Over engine running ∧ ∀ later : List Event,
        let after := ((start (built.install providers) true).run engine (events ++ later)).2
        Over engine after ∧ after.server =
          { running.server with
            handler := ⟨(lastSent config (events ++ later)).graphql.options, providers⟩ }) := by
  intro running
  have stands : Stands config built.route providers events running := stands_run new providers engine events
  refine ⟨stands.listens.stopped, fun goesOn => ?_, fun ended => ⟨?_, fun later => ?_⟩⟩
  · have runs : running.stopped = false := Bool.eq_false_iff.mpr (mt stands.listens.stopped.mp goesOn)
    exact serves_of_stands new stands runs engine
  · exact over_of_stands stands (stands.listens.stopped.mpr ended) engine
  · intro after
    have standsAfter : Stands config built.route providers (events ++ later) after :=
      stands_run new providers engine (events ++ later)
    suffices still : Ended (events ++ later) ∧
        after.server = { running.server with handler := after.server.handler } by
      refine ⟨over_of_stands standsAfter (standsAfter.listens.stopped.mpr still.1) engine, ?_⟩
      rw [still.2, standsAfter.follows.handler]
    clear standsAfter
    induction later using List.reverseRecOn with
    | nil =>
        have same : after = running := congrArg (fun events => (run engine _ events).2) (List.append_nil events)
        rw [List.append_nil, same]
        exact ⟨ended, rfl⟩
    | append_singleton later event ih =>
        obtain ⟨stillEnded, server⟩ := ih
        have before := stands_run new providers engine (events ++ later)
        have isOver := over_of_stands before (before.listens.stopped.mpr stillEnded) engine
        have last : after = (((start (built.install providers) true).run engine (events ++ later)).2.step engine
            event).2 := by
          rw [← run_concat, List.append_assoc]
        rw [← List.append_assoc, last, isOver.server_step event, server]
        exact ⟨ended_concat stillEnded event, rfl⟩

/-- Batches are switched off, and the sending of configurations is closed. -/
def switchedOff : List Event :=
  [.update (oneSecond.withBatching false), .closeUpdates, .update oneSecond, .clone 0, .drop 0]

/-- With one handle left the server goes on without batches, and with its signal it is over. -/
theorem serves_until_triggered :
    Serves oneSecond .standard (oneSecond.withBatching false) Engine.echo
        ((start (ofOneSecond.install .standard) true).run Engine.echo switchedOff).2 ∧
      Over Engine.echo
        ((start (ofOneSecond.install .standard) true).run Engine.echo (switchedOff ++ [.trigger 1])).2 := by
  have goesOn : ¬Ended switchedOff := by
    rintro ((⟨_, trigger, -⟩ | ⟨_, trigger, -⟩ | none) | abandoned)
    · cases trigger
    · cases trigger
    · exact none
    · exact absurd (abandoned 1) (by decide)
  have ended : Ended (switchedOff ++ [.trigger 1]) := Or.inl (Or.inr (Or.inr (Or.inl ⟨1, rfl, rfl⟩)))
  obtain ⟨-, serves, -⟩ := stops_on_signal_only new?_oneSecond .standard Engine.echo switchedOff
  obtain ⟨-, -, isOver⟩ := stops_on_signal_only new?_oneSecond .standard Engine.echo (switchedOff ++ [.trigger 1])
  exact ⟨serves goesOn, (isOver ended).1⟩

/-- A configuration that is sent after the stop is still followed by the handler. -/
theorem update_after_stop_has_effect :
    let stopped := ((start ofOneSecond true).run Engine.echo [.trigger 0]).2
    let updated := (stopped.step Engine.echo (.update (oneSecond.withBatching false))).2
    stopped.stopped = true ∧ stopped.server.handler.options.batching = true ∧
      updated.server.handler.options.batching = false := by
  decide +kernel

end QueryGateway.Server.Running
