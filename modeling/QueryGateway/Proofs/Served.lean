import QueryGateway.Proofs.BatchTasks
import QueryGateway.Proofs.Rejections

/-!
# How requests are served

A request is served in one of five ways: no time is given for it, it announces too long a body, its path is
unknown, its handling is over before the deadline, or it is cut off at the deadline.  `Served` says for each way
what the client is told, what is started and what ends, and what the server is afterwards.  A run is seen as the
list of its moments.  No step changes the configuration and the route, and the handler after a run is the first one
after the changes of the run.
-/

namespace QueryGateway

open Http GraphQL

/-- Starts the executions of a handling and waits until it is cut off: then only those of a batch go on. -/
def GraphQL.Clock.cutOff (clock : Clock) (handling : Handling) (deadline : Nat) : Activity × Clock :=
  let calls := handling.started.map Started.execution
  (clock.start calls.length (if handling.batchSize.isSome then handling.started else [])).pass calls
    (clock.now + deadline)

namespace Server

/-! ## What the layers make of a request -/

/-- A request with an identifier: its own, or a fresh one. -/
def identified (fresh : Bytes) (request : Request) : Request :=
  { request with head := identify fresh request.head }

theorem method_identified (fresh : Bytes) (request : Request) :
    (identified fresh request).head.method = request.head.method := by
  unfold identified identify
  dsimp only
  split <;> rfl

theorem uri_identified (fresh : Bytes) (request : Request) :
    (identified fresh request).head.uri = request.head.uri := by
  unfold identified identify
  dsimp only
  split <;> rfl

/-- What the layers make of an answer to a request. -/
def finish (server : Server) (request : Request) (answer : Response) : Response :=
  carry (identifier request.head)
    (if server.route.accepts request.head.uri.path then complete request.head.method answer else answer)

theorem status_withLength (answer : Response) : (withLength answer).status = answer.status := by
  unfold withLength
  split <;> rfl

theorem status_complete (method : String) (answer : Response) :
    (complete method answer).status = answer.status := by
  unfold complete
  split
  · exact status_withLength answer
  · exact status_withLength answer

theorem status_carry (id : Bytes) (answer : Response) : (carry id answer).status = answer.status := by
  unfold carry
  split <;> rfl

/-- The layers add headers to an answer, and keep its status. -/
theorem status_finish (server : Server) (request : Request) (answer : Response) :
    (server.finish request answer).status = answer.status := by
  unfold finish
  rw [status_carry]
  split
  · exact status_complete request.head.method answer
  · rfl

/-- The most octets that are read of the body of a request. -/
def readLimit (server : Server) (request : Request) : Nat :=
  let limit := server.config.graphql.bodyLimit.toNat
  min limit ((announcedLength? request.head.headers).getD limit)

/-- Whether a request announces a body that is too long. -/
def announcesTooMuch (server : Server) (request : Request) : Bool :=
  server.config.graphql.bodyLimit.toNat < (announcedLength? request.head.headers).getD 0

/-- Whether a request gets through to the handler. -/
def reaches (server : Server) (request : Request) : Bool :=
  server.deadline ≠ 0 && !server.announcesTooMuch request && server.route.accepts request.head.uri.path

/-- The handling of a request by the handler of a server, if the request gets through to it. -/
def handling (server : Server) (engine : Engine) (request : Request) : Handling :=
  server.handler.handle engine server.clock.started (some (server.readLimit request)) request

/-- What is told, and the server afterwards, when the clock has gone on and `metrics` were recorded. -/
def after (server : Server) (metrics : Metrics) (passed : Activity × Clock) : Activity × Server :=
  (passed.1, { server with clock := passed.2, metrics })

/-- How a request with an identifier is served: the reply, what is told of executions, the server afterwards. -/
inductive Served (server : Server) (engine : Engine) (request : Request) : Reply × Activity × Server → Prop
  | noTime (none : server.deadline = 0) :
      Served server engine request
        (.response (server.finish request timedOut),
          server.after server.metrics (server.clock.pass [] server.clock.now))
  | tooMuch (time : server.deadline ≠ 0) (long : server.announcesTooMuch request = true) :
      Served server engine request
        (.response (server.finish request lengthExceeded),
          server.after server.metrics (server.clock.pass [] server.clock.now))
  | unknown (time : server.deadline ≠ 0) (short : server.announcesTooMuch request = false)
      (other : server.route.accepts request.head.uri.path = false) :
      Served server engine request
        (.response (server.finish request unknownPath),
          server.after (server.metrics.recordRequest request.head.method unknownPath.status)
            (server.clock.pass [] server.clock.now))
  | inTime (reached : server.reaches request = true)
      (timely : (server.handling engine request).duration < server.deadline) :
      Served server engine request
        ((Reply.ofEnding (server.handling engine request).ending).map (server.finish request),
          server.after
            (record server.metrics request.head.method (server.handling engine request).batchSize
              (some (.ofEnding (server.handling engine request).ending)))
            (server.clock.await (server.handling engine request)))
  | cutOff (reached : server.reaches request = true)
      (late : server.deadline ≤ (server.handling engine request).duration) :
      Served server engine request
        (.response (server.finish request timedOut),
          server.after
            (record server.metrics request.head.method (server.handling engine request).batchSize none)
            (server.clock.cutOff (server.handling engine request) server.deadline))

theorem Reply.map_map (reply : Reply) (f g : Response → Response) :
    (reply.map f).map g = reply.map fun answer => g (f answer) := by
  cases reply <;> rfl

theorem serve_eq (server : Server) (engine : Engine) (fresh : Bytes) (request : Request) :
    server.serve engine fresh request =
      ((server.dispatch engine (identified fresh request)).1.map
          (carry (identifier (identify fresh request.head))),
        (server.dispatch engine (identified fresh request)).2) := rfl

section

variable {server : Server} {request : Request}

theorem reaches_iff : server.reaches request = true ↔ server.deadline ≠ 0 ∧
    server.announcesTooMuch request = false ∧ server.route.accepts request.head.uri.path = true := by
  simp only [reaches, Bool.and_eq_true, decide_eq_true_eq, Bool.not_eq_true', and_assoc]

theorem not_reaches_of_noTime (none : server.deadline = 0) : ¬server.reaches request = true :=
  fun reached => (reaches_iff.mp reached).1 none

theorem not_reaches_of_tooMuch (long : server.announcesTooMuch request = true) :
    ¬server.reaches request = true :=
  fun reached => Bool.false_ne_true ((reaches_iff.mp reached).2.1.symm.trans long)

theorem not_reaches_of_unknown (other : server.route.accepts request.head.uri.path = false) :
    ¬server.reaches request = true :=
  fun reached => Bool.false_ne_true (other.symm.trans (reaches_iff.mp reached).2.2)

/-- A request gets through to the handler, unless one of three layers answers it. -/
theorem reaches_cases (server : Server) (request : Request) :
    server.deadline = 0 ∨ (server.deadline ≠ 0 ∧ server.announcesTooMuch request = true) ∨
      (server.deadline ≠ 0 ∧ server.announcesTooMuch request = false ∧
        server.route.accepts request.head.uri.path = false) ∨ server.reaches request = true := by
  by_cases time : server.deadline = 0
  · exact Or.inl time
  cases long : server.announcesTooMuch request with
  | true => exact Or.inr (Or.inl ⟨time, rfl⟩)
  | false =>
      cases known : server.route.accepts request.head.uri.path with
      | false => exact Or.inr (Or.inr (Or.inl ⟨time, rfl, rfl⟩))
      | true => exact Or.inr (Or.inr (Or.inr (reaches_iff.mpr ⟨time, long, known⟩)))

/-- The handler answers a request that gets through to it. -/
theorem dispatch_of_reaches (reached : server.reaches request = true) (engine : Engine) :
    server.dispatch engine request =
      let handled := server.handleInTime engine (server.readLimit request) request
      (handled.1.map (complete request.head.method), handled.2) := by
  obtain ⟨time, short, known⟩ := reaches_iff.mp reached
  unfold dispatch
  dsimp only
  rw [if_neg time, if_neg (of_decide_eq_false short), if_pos known]
  simp only [if_pos known]
  rfl

theorem handleInTime_of_timely {engine : Engine}
    (timely : (server.handling engine request).duration < server.deadline) :
    server.handleInTime engine (server.readLimit request) request =
      (.ofEnding (server.handling engine request).ending,
        server.after
          (record server.metrics request.head.method (server.handling engine request).batchSize
            (some (.ofEnding (server.handling engine request).ending)))
          (server.clock.await (server.handling engine request))) := by
  unfold handleInTime
  exact if_pos timely

theorem handleInTime_of_late {engine : Engine}
    (late : server.deadline ≤ (server.handling engine request).duration) :
    server.handleInTime engine (server.readLimit request) request =
      (.response timedOut,
        server.after (record server.metrics request.head.method (server.handling engine request).batchSize none)
          (server.clock.cutOff (server.handling engine request) server.deadline)) := by
  unfold handleInTime
  exact if_neg (Nat.not_lt.mpr late)

end

/-- Every request is served in one of these ways. -/
theorem served_serve (server : Server) (engine : Engine) (fresh : Bytes) (request : Request) :
    Served server engine (identified fresh request) (server.serve engine fresh request) := by
  rw [serve_eq]
  rcases server.reaches_cases (identified fresh request) with
    none | ⟨time, long⟩ | ⟨time, short, other⟩ | reached
  · have served := @Served.noTime server engine (identified fresh request) none
    unfold dispatch
    rw [if_pos none]
    exact served
  · have served := @Served.tooMuch server engine (identified fresh request) time long
    unfold dispatch
    dsimp only
    rw [if_neg time, if_pos (of_decide_eq_true long)]
    exact served
  · have served := @Served.unknown server engine (identified fresh request) time short other
    unfold dispatch
    dsimp only
    rw [if_neg time, if_neg (of_decide_eq_false short), if_neg (Bool.eq_false_iff.mp other)]
    exact served
  · obtain ⟨-, -, known⟩ := reaches_iff.mp reached
    -- two layers change an answer of the handler, one after the other
    have finishes : (fun answer => carry (identifier (identify fresh request.head))
        (complete (identified fresh request).head.method answer)) = server.finish (identified fresh request) := by
      funext answer
      rw [finish, if_pos known]
      rfl
    rw [dispatch_of_reaches reached]
    rcases Nat.lt_or_ge (server.handling engine (identified fresh request)).duration server.deadline with
      timely | late
    · rw [handleInTime_of_timely timely]
      dsimp only
      rw [Reply.map_map, finishes]
      exact .inTime reached timely
    · rw [handleInTime_of_late late]
      dsimp only
      rw [Reply.map_map, finishes]
      exact .cutOff reached late

/-! ## Moments of a run -/

/-- A step of a run: the server before it, what happened, what was told, and the server after it. -/
structure Moment where
  before : Server
  event : Event
  report : Report
  after : Server

/-- The moment of a step. -/
def Moment.of (engine : Engine) (server : Server) (event : Event) : Moment :=
  ⟨server, event, (step engine server event).1, (step engine server event).2⟩

/-- The moments of a run. -/
def moments (engine : Engine) (server : Server) : List Event → List Moment
  | [] => []
  | event :: events => .of engine server event :: moments engine (step engine server event).2 events

theorem moments_cons (engine : Engine) (server : Server) (event : Event) (events : List Event) :
    moments engine server (event :: events) =
      .of engine server event :: moments engine (step engine server event).2 events := rfl

theorem run_cons (engine : Engine) (server : Server) (event : Event) (events : List Event) :
    run engine server (event :: events) =
      ((step engine server event).1 :: (run engine (step engine server event).2 events).1,
        (run engine (step engine server event).2 events).2) := rfl

/-- The moments of a run tell what the run tells. -/
theorem map_report_moments (engine : Engine) (server : Server) (events : List Event) :
    (moments engine server events).map Moment.report = (run engine server events).1 := by
  induction events generalizing server with
  | nil => rfl
  | cons event events ih =>
      rw [moments_cons, List.map_cons, ih, run_cons]
      rfl

theorem map_event_moments (engine : Engine) (server : Server) (events : List Event) :
    (moments engine server events).map Moment.event = events := by
  induction events generalizing server with
  | nil => rfl
  | cons event events ih =>
      rw [moments_cons, List.map_cons, ih]
      rfl

/-- What holds of every step holds of every moment of a run, if every step keeps what it needs. -/
theorem forall_moments {engine : Engine} {Keeps : Server → Prop} {Holds : Moment → Prop}
    (next : ∀ server event, Keeps server →
      Keeps (step engine server event).2 ∧ Holds (.of engine server event))
    {server : Server} (kept : Keeps server) (events : List Event) :
    ∀ moment ∈ moments engine server events, Holds moment := by
  induction events generalizing server with
  | nil =>
      intro moment member
      cases member
  | cons event events ih =>
      obtain ⟨keeps, holds⟩ := next server event kept
      rw [moments_cons]
      intro moment member
      rcases List.mem_cons.mp member with rfl | member
      · exact holds
      · exact ih keeps moment member

/-! ## What steps keep -/

/-- Serving changes only the record and the clock, which counts what was started. -/
theorem Served.frame {server : Server} {engine : Engine} {request : Request}
    {result : Reply × Activity × Server} (served : Served server engine request result) :
    result.2.2.config = server.config ∧ result.2.2.route = server.route ∧
      result.2.2.handler = server.handler ∧
      result.2.2.clock.started = server.clock.started + result.2.1.calls.length := by
  cases served <;> exact ⟨rfl, rfl, rfl, rfl⟩

/-- The configuration stays what it was when the server was built. -/
theorem config_step (engine : Engine) (server : Server) (event : Event) :
    (step engine server event).2.config = server.config := by
  cases event with
  | request request fresh => exact (server.served_serve engine fresh request).frame.1
  | change | reconfigure | advance => rfl

/-- The route stays what it was when the server was built. -/
theorem route_step (engine : Engine) (server : Server) (event : Event) :
    (step engine server event).2.route = server.route := by
  cases event with
  | request request fresh => exact (server.served_serve engine fresh request).frame.2.1
  | change | reconfigure | advance => rfl

/-- What a step makes of a handler: it follows a change, and the options of another configuration. -/
def Event.onHandler (handler : Handler) : Event → Handler
  | .change made => handler.change made
  | .reconfigure config => handler.change (.options config.graphql.options)
  | .request _ _ => handler
  | .advance _ => handler

theorem handler_step (engine : Engine) (server : Server) (event : Event) :
    (step engine server event).2.handler = event.onHandler server.handler := by
  cases event with
  | request request fresh => exact (server.served_serve engine fresh request).frame.2.2.1
  | change | reconfigure | advance => rfl

/-- What every step keeps, a run keeps. -/
theorem run_keeps {engine : Engine} {Keeps : Server → Prop}
    (next : ∀ server event, Keeps server → Keeps (step engine server event).2) {server : Server}
    (kept : Keeps server) (events : List Event) : Keeps (run engine server events).2 := by
  induction events generalizing server with
  | nil => exact kept
  | cons event events ih =>
      rw [run_cons]
      exact ih (next server event kept)

theorem config_run (engine : Engine) (server : Server) (events : List Event) :
    (run engine server events).2.config = server.config := by
  have next (state : Server) (event : Event) (kept : state.config = server.config) :
      (step engine state event).2.config = server.config := (config_step engine state event).trans kept
  exact @run_keeps engine (fun state => state.config = server.config) next server rfl events

theorem route_run (engine : Engine) (server : Server) (events : List Event) :
    (run engine server events).2.route = server.route := by
  have next (state : Server) (event : Event) (kept : state.route = server.route) :
      (step engine state event).2.route = server.route := (route_step engine state event).trans kept
  exact @run_keeps engine (fun state => state.route = server.route) next server rfl events

/-- The handler after a run is the first one after all changes of the run, in order. -/
theorem handler_run (engine : Engine) (server : Server) (events : List Event) :
    (run engine server events).2.handler = events.foldl Event.onHandler server.handler := by
  induction events generalizing server with
  | nil => rfl
  | cons event events ih => rw [run_cons, ih, handler_step, List.foldl_cons]

/-! ## A server that gives requests one second -/

/-- A request may take one second, and batches are accepted. -/
def oneSecond : Config :=
  { Config.standard with graphql := { Config.Endpoint.standard with batching := true }, timeouts := ⟨1⟩ }

/-- A new server that gives requests one second. -/
def ofOneSecond : Server :=
  ⟨oneSecond, ⟨"/graphql".toList.map .literal⟩, .new ⟨true⟩, .empty, .zero⟩

theorem new?_oneSecond : new? oneSecond = some ofOneSecond := by
  with_unfolding_all rfl

/-- The executions of one query take longer than a second. -/
def slowEngine : Engine := Engine.scripted [⟨"slow", 1500, none⟩]

/-- A request for the slow query. -/
def slowRequest : Request := ⟨⟨"GET", ⟨"/graphql", some "query=slow"⟩, []⟩, []⟩

end Server

end QueryGateway
