import QueryGateway.Proofs.Served

/-!
# Deadlines

A request whose executions all end before the deadline is answered as if there were none, and any other one is
answered at the deadline with nothing but a status.  What a batch has started goes on nevertheless: each of its
executions that does not panic ends once, when its time has come, while the request itself or a later one is
served, or while time passes.  A query that was sent alone is dropped at the deadline, and never ends.  No end
changes what a client is told.
-/

namespace QueryGateway

open Http

namespace GraphQL

/-! ## Time passes -/

/-- A handling is over before a time if each execution is. -/
theorem Handling.duration_lt_iff {handling : Handling} {time : Nat} (positive : 0 < time) :
    handling.duration < time ↔ ∀ task ∈ handling.started, task.behaviour.delay < time := by
  constructor
  · intro soon task member
    exact Nat.lt_of_le_of_lt (Handling.delay_le_duration member) soon
  · obtain ⟨started, _, _⟩ := handling
    unfold duration
    intro each
    induction started with
    | nil => exact positive
    | cons first others ih =>
        rw [List.foldr_cons]
        apply Nat.max_lt.mpr
        refine ⟨each first List.mem_cons_self, ih ?_⟩
        intro task member
        exact each task (List.mem_cons_of_mem first member)

namespace Clock

/-- Whatever still runs ends later. -/
def Settled (clock : Clock) : Prop := ∀ due ∈ clock.running, clock.now < due.time

theorem settled_zero : zero.Settled := nofun

/-- What is told of a step in which `new` is started and `ended` ends. -/
structure Tells (before : Clock) (new : List Due) (told : Activity) (after : Clock)
    (ended : List Due) : Prop where
  finished : told.finished = ended.map Due.execution
  inOrder : ended.Pairwise fun earlier later => earlier.time ≤ later.time
  /-- An end is told in the step that reaches its time. -/
  onTime : ∀ due ∈ ended, due.time ≤ after.now ∧ (before.now < due.time ∨ due ∈ new)
  /-- What ran and what is started has ended or runs on, and nothing does both. -/
  once : (ended ++ after.running).Perm (before.running ++ new)
  settled : after.Settled

/-- What ends until a time and what runs on is all that ran. -/
theorem endsUntil_append_running (clock : Clock) (time : Nat) :
    (clock.endsUntil time ++ (clock.passTo time).running).Perm clock.running := by
  have later : (clock.passTo time).running = clock.running.filter fun due => !decide (due.time ≤ time) := by
    apply List.filter_congr
    intro due _
    rw [← decide_not, decide_eq_decide]
    exact Nat.not_le.symm
  rw [later]
  refine (List.Perm.append_right _ (List.mergeSort_perm _ _)).trans ?_
  exact List.filter_append_perm _ clock.running

/-- Time tells of each end when it comes to it. -/
theorem tells_pass {before clock : Clock} {new : List Due} (settled : before.Settled)
    (running : clock.running = before.running ++ new) (calls : List Execution) (time : Nat) :
    before.Tells new (clock.pass calls time).1 (clock.pass calls time).2 (clock.endsUntil time) where
  finished := rfl
  inOrder := Pool.pairwise_mergeSort_by Due.time _
  onTime := by
    intro due member
    obtain ⟨ran, reached⟩ := List.mem_filter.mp ((List.mergeSort_perm _ _).mem_iff.mp member)
    rw [running] at ran
    refine ⟨of_decide_eq_true reached, ?_⟩
    rcases List.mem_append.mp ran with old | fresh
    · exact Or.inl (settled due old)
    · exact Or.inr fresh
  once := by
    rw [← running]
    exact clock.endsUntil_append_running time
  settled := by
    intro due member
    exact of_decide_eq_true (List.mem_filter.mp member).2

/-- Where no time passes nothing ends. -/
theorem tells_nothing {clock : Clock} (settled : clock.Settled) : clock.Tells [] ⟨[], []⟩ clock [] where
  finished := rfl
  inOrder := .nil
  onTime := nofun
  once := List.Perm.of_eq (List.append_nil _).symm
  settled := settled

end Clock

end GraphQL

namespace Server

open GraphQL

/-! ## One request -/

/-- What a request starts, if it gets through to the handler. -/
def startedBy (server : Server) (engine : Engine) (request : Request) : List Started :=
  if server.reaches request = true then (server.handling engine request).started else []

/-- Whether something that a request starts is not over before the deadline. -/
def isLate (server : Server) (engine : Engine) (request : Request) : Bool :=
  (server.startedBy engine request).any fun task => server.deadline ≤ task.behaviour.delay

/-- The reply to a request for which there is no deadline: the handler serves it to its end. -/
def patientReply (server : Server) (engine : Engine) (request : Request) : Reply :=
  Reply.map (server.finish request) <|
    if server.announcesTooMuch request = true then .response lengthExceeded
    else if server.route.accepts request.head.uri.path = true then
      .ofEnding (server.handler.serveWithin engine server.clock (some (server.readLimit request)) request).1
    else .response unknownPath

/-- The reply to a request. -/
def replyTo (server : Server) (engine : Engine) (request : Request) : Reply :=
  if server.deadline = 0 ∨ server.isLate engine request = true then .response (server.finish request timedOut)
  else server.patientReply engine request

/-- What a request starts that will end: not what panics, and not a late query that was sent alone. -/
def dues (server : Server) (engine : Engine) (request : Request) : List Due :=
  if server.isLate engine request = true ∧ (server.handling engine request).batchSize = none then []
  else (server.startedBy engine request).filterMap server.clock.due?

theorem body_withLength (answer : Response) : (withLength answer).body = answer.body := by
  unfold withLength
  split <;> rfl

theorem body_carry (id : Bytes) (answer : Response) : (carry id answer).body = answer.body := by
  unfold carry
  split <;> rfl

/-- The layers add no body to an answer without one. -/
theorem body_finish_of_empty {answer : Response} (empty : answer.body = "") (server : Server)
    (request : Request) : (server.finish request answer).body = "" := by
  unfold finish complete
  rw [body_carry]
  split
  · split
    · rfl
    · rw [body_withLength, empty]
  · exact empty

/-- The answer at the deadline is nothing but a status. -/
theorem finish_timedOut (server : Server) (request : Request) :
    ∃ headers, server.finish request timedOut = ⟨408, headers, ""⟩ := by
  have status := server.status_finish request timedOut
  have body := @body_finish_of_empty timedOut rfl server request
  generalize server.finish request timedOut = answer at status body
  obtain ⟨_, headers, _⟩ := answer
  cases status
  cases body
  exact ⟨headers, rfl⟩

section

variable {server : Server} {engine : Engine} {request : Request}

theorem startedBy_of_not_reaches (stopped : ¬server.reaches request = true) :
    server.startedBy engine request = [] := if_neg stopped

theorem startedBy_of_reaches (reached : server.reaches request = true) :
    server.startedBy engine request = (server.handling engine request).started := if_pos reached

theorem not_isLate_of_not_reaches (engine : Engine) (stopped : ¬server.reaches request = true) :
    ¬server.isLate engine request = true := by
  unfold isLate
  rw [startedBy_of_not_reaches stopped]
  exact nofun

theorem dues_of_not_reaches (stopped : ¬server.reaches request = true) : server.dues engine request = [] := by
  unfold dues
  rw [if_neg fun late => not_isLate_of_not_reaches engine stopped late.1, startedBy_of_not_reaches stopped,
    List.filterMap_nil]

/-- Nothing is late exactly if each execution is over before the deadline. -/
theorem not_isLate_iff : ¬server.isLate engine request = true ↔
    ∀ task ∈ server.startedBy engine request, task.behaviour.delay < server.deadline := by
  unfold isLate
  simp only [List.any_eq_true, decide_eq_true_eq, not_exists, not_and, Nat.not_le]

/-- A request that gets through is late exactly if its handling is not over before the deadline. -/
theorem isLate_iff_of_reaches (reached : server.reaches request = true) :
    server.isLate engine request = true ↔ server.deadline ≤ (server.handling engine request).duration := by
  have positive : 0 < server.deadline := Nat.pos_of_ne_zero (reaches_iff.mp reached).1
  rw [← not_iff_not, not_isLate_iff, startedBy_of_reaches reached, Nat.not_le]
  exact (Handling.duration_lt_iff positive).symm

theorem not_isLate_of_timely (reached : server.reaches request = true)
    (timely : (server.handling engine request).duration < server.deadline) :
    ¬server.isLate engine request = true :=
  fun late => Nat.not_le.mpr timely ((isLate_iff_of_reaches reached).mp late)

theorem replyTo_of_inTime (time : server.deadline ≠ 0) (timely : ¬server.isLate engine request = true) :
    server.replyTo engine request = server.patientReply engine request :=
  if_neg (not_or.mpr ⟨time, timely⟩)

theorem Served.reply_eq {result : Reply × Activity × Server} (served : Served server engine request result) :
    result.1 = server.replyTo engine request := by
  cases served with
  | noTime none => exact (if_pos (Or.inl none)).symm
  | tooMuch time long =>
      have inTime := not_isLate_of_not_reaches engine (not_reaches_of_tooMuch long)
      rw [replyTo_of_inTime time inTime, patientReply, if_pos long]
      rfl
  | unknown time short other =>
      have inTime := not_isLate_of_not_reaches engine (not_reaches_of_unknown other)
      rw [replyTo_of_inTime time inTime, patientReply, if_neg (Bool.eq_false_iff.mp short),
        if_neg (Bool.eq_false_iff.mp other)]
      rfl
  | inTime reached timely =>
      obtain ⟨time, short, known⟩ := reaches_iff.mp reached
      have inTime := not_isLate_of_timely reached timely
      rw [replyTo_of_inTime time inTime, patientReply, if_neg (Bool.eq_false_iff.mp short), if_pos known]
      rfl
  | cutOff reached late => exact (if_pos (Or.inr ((isLate_iff_of_reaches reached).mpr late))).symm

/-- What becomes of the clock: nothing is started, or what is started is waited for, to its end or to the
deadline. -/
theorem Served.clock_cases {result : Reply × Activity × Server} (served : Served server engine request result) :
    (¬server.reaches request = true ∧ result.2.1 = (server.clock.pass [] server.clock.now).1 ∧
        result.2.2.clock = (server.clock.pass [] server.clock.now).2) ∨
      (server.reaches request = true ∧ (server.handling engine request).duration < server.deadline ∧
        result.2.1 = (server.clock.await (server.handling engine request)).1 ∧
        result.2.2.clock = (server.clock.await (server.handling engine request)).2) ∨
      (server.reaches request = true ∧ server.isLate engine request = true ∧
        result.2.1 = (server.clock.cutOff (server.handling engine request) server.deadline).1 ∧
        result.2.2.clock = (server.clock.cutOff (server.handling engine request) server.deadline).2) := by
  cases served with
  | noTime none => exact Or.inl ⟨not_reaches_of_noTime none, rfl, rfl⟩
  | tooMuch time long => exact Or.inl ⟨not_reaches_of_tooMuch long, rfl, rfl⟩
  | unknown time short other => exact Or.inl ⟨not_reaches_of_unknown other, rfl, rfl⟩
  | inTime reached timely => exact Or.inr (Or.inl ⟨reached, timely, rfl, rfl⟩)
  | cutOff reached late => exact Or.inr (Or.inr ⟨reached, (isLate_iff_of_reaches reached).mpr late, rfl, rfl⟩)

/-- What is told to be started is what the request starts. -/
theorem Served.calls_eq {result : Reply × Activity × Server} (served : Served server engine request result) :
    result.2.1.calls = (server.startedBy engine request).map Started.execution := by
  rcases served.clock_cases with ⟨stopped, told, -⟩ | ⟨reached, -, told, -⟩ | ⟨reached, -, told, -⟩
  · rw [told, startedBy_of_not_reaches stopped]
    rfl
  · rw [told, startedBy_of_reaches reached]
    rfl
  · rw [told, startedBy_of_reaches reached]
    rfl

/-- Each execution that a request starts and that will end, ends when its time has come. -/
theorem Served.tells (settled : server.clock.Settled) {result : Reply × Activity × Server}
    (served : Served server engine request result) :
    ∃ ended, server.clock.Tells (server.dues engine request) result.2.1 result.2.2.clock ended := by
  rcases served.clock_cases with ⟨stopped, told, after⟩ | ⟨reached, timely, told, after⟩ |
    ⟨reached, late, told, after⟩
  · rw [told, after, dues_of_not_reaches stopped]
    exact ⟨_, Clock.tells_pass settled (List.append_nil _).symm [] server.clock.now⟩
  · have all : server.dues engine request =
        (server.handling engine request).started.filterMap server.clock.due? := by
      rw [← startedBy_of_reaches reached]
      exact if_neg fun late => not_isLate_of_timely reached timely late.1
    rw [told, after, all]
    exact ⟨_, Clock.tells_pass settled rfl _ _⟩
  · have lasting : server.dues engine request =
        (if (server.handling engine request).batchSize.isSome then (server.handling engine request).started
          else []).filterMap server.clock.due? := by
      unfold dues
      rw [startedBy_of_reaches reached]
      -- of what is cut off, only a batch goes on
      cases (server.handling engine request).batchSize with
      | none => exact if_pos ⟨late, rfl⟩
      | some count => exact if_neg fun alone => nomatch alone.2
    rw [told, after, lasting]
    exact ⟨_, Clock.tells_pass settled rfl _ _⟩

/-- What a request is told, and when: before the deadline what it would be told without one, if all that it starts
is over before; and a status alone at the deadline, if anything is not. -/
structure KeepsDeadline (server : Server) (engine : Engine) (request : Request) (reply : Reply)
    (after : Server) : Prop where
  inTime : (∀ task ∈ server.startedBy engine request, task.behaviour.delay < server.deadline) →
    reply = server.patientReply engine request ∧ after.clock.now < server.clock.now + server.deadline
  late : ∀ task ∈ server.startedBy engine request, server.deadline ≤ task.behaviour.delay →
    ∃ headers, reply = .response ⟨408, headers, ""⟩ ∧ after.clock.now = server.clock.now + server.deadline

/-- A request that starts nothing late is over before the deadline, any other one at the deadline. -/
theorem Served.now_eq (time : server.deadline ≠ 0) {result : Reply × Activity × Server}
    (served : Served server engine request result) :
    if server.isLate engine request = true then result.2.2.clock.now = server.clock.now + server.deadline
    else result.2.2.clock.now < server.clock.now + server.deadline := by
  rcases served.clock_cases with ⟨stopped, -, after⟩ | ⟨reached, timely, -, after⟩ |
    ⟨reached, late, -, after⟩
  · rw [if_neg (not_isLate_of_not_reaches engine stopped), after]
    exact Nat.lt_add_of_pos_right (Nat.pos_of_ne_zero time)
  · rw [if_neg (not_isLate_of_timely reached timely), after]
    exact Nat.add_lt_add_left timely server.clock.now
  · rw [if_pos late, after]
    rfl

theorem Served.keepsDeadline (time : server.deadline ≠ 0) {result : Reply × Activity × Server}
    (served : Served server engine request result) :
    KeepsDeadline server engine request result.1 result.2.2 where
  inTime := by
    intro each
    have inTime := not_isLate_iff.mpr each
    have timely := served.now_eq time
    rw [if_neg inTime] at timely
    rw [served.reply_eq, replyTo_of_inTime time inTime]
    exact ⟨rfl, timely⟩
  late := by
    intro task member long
    have late : server.isLate engine request = true := by
      by_contra inTime
      exact Nat.not_lt.mpr long (not_isLate_iff.mp inTime task member)
    have deadline := served.now_eq time
    rw [if_pos late] at deadline
    obtain ⟨headers, answer⟩ := server.finish_timedOut request
    refine ⟨headers, ?_, deadline⟩
    rw [served.reply_eq, replyTo, if_pos (Or.inr late), answer]

end

/-! ## Moments -/

/-- What a moment starts that will end. -/
def Moment.dues (engine : Engine) (moment : Moment) : List Due :=
  match moment.event with
  | .request request fresh => moment.before.dues engine (identified fresh request)
  | _ => []

/-- A moment with a request tells what the request starts and has one reply, which keeps the deadline; any other
moment has no reply. -/
def Moment.KeepsDeadline (engine : Engine) (moment : Moment) : Prop :=
  match moment.event with
  | .request request fresh =>
    moment.report.activity.calls =
        (moment.before.startedBy engine (identified fresh request)).map Started.execution ∧
      ∃ reply, moment.report.reply = some reply ∧
        Server.KeepsDeadline moment.before engine (identified fresh request) reply moment.after
  | .advance milliseconds =>
    moment.report.reply = none ∧ moment.after.clock.now = moment.before.clock.now + milliseconds
  | _ => moment.report.reply = none ∧ moment.after.clock = moment.before.clock

/-- What is told of ends in a moment. -/
def Moment.Tells (engine : Engine) (moment : Moment) (ended : List Due) : Prop :=
  moment.before.clock.Tells (moment.dues engine) moment.report.activity moment.after.clock ended

/-- The deadline stays what it was when the server was built. -/
theorem deadline_step (engine : Engine) (server : Server) (event : Event) :
    (step engine server event).2.deadline = server.deadline := by
  unfold deadline
  rw [config_step]

theorem keepsDeadline_step {server : Server} (time : server.deadline ≠ 0) (engine : Engine) (event : Event) :
    (Moment.of engine server event).KeepsDeadline engine := by
  cases event with
  | request request fresh =>
      have served := server.served_serve engine fresh request
      exact ⟨served.calls_eq, _, rfl, served.keepsDeadline time⟩
  | change | reconfigure | advance => exact ⟨rfl, rfl⟩

theorem tells_step {server : Server} (settled : server.clock.Settled) (engine : Engine) (event : Event) :
    ∃ ended, (Moment.of engine server event).Tells engine ended := by
  cases event with
  | request request fresh => exact (server.served_serve engine fresh request).tells settled
  | change | reconfigure => exact ⟨[], Clock.tells_nothing settled⟩
  | advance milliseconds => exact ⟨_, Clock.tells_pass settled (List.append_nil _).symm [] _⟩

/-! ## Runs -/

/-- Over a run, everything that will end does so once, or it still runs. -/
theorem exists_ends (engine : Engine) {server : Server} (settled : server.clock.Settled) (events : List Event) :
    ∃ ends, List.Forall₂ (Moment.Tells engine) (moments engine server events) ends ∧
      (ends.flatten ++ (run engine server events).2.clock.running).Perm
        (server.clock.running ++ (moments engine server events).flatMap (Moment.dues engine)) ∧
      (run engine server events).2.clock.Settled := by
  induction events generalizing server with
  | nil => exact ⟨[], .nil, List.Perm.of_eq (List.append_nil _).symm, settled⟩
  | cons event events ih =>
      obtain ⟨ended, tells⟩ := tells_step settled engine event
      obtain ⟨ends, told, once, last⟩ := ih tells.settled
      refine ⟨ended :: ends, .cons tells told, ?_, last⟩
      rw [moments_cons, run_cons, List.flatten_cons, List.flatMap_cons, List.append_assoc,
        ← List.append_assoc server.clock.running]
      -- what runs after the first step stands for what it left over
      refine (List.Perm.append_left ended once).trans ?_
      rw [← List.append_assoc]
      exact List.Perm.append_right _ tells.once

/-! ## Replies -/

/-- Two servers decide alike about requests. -/
structure Alike (server other : Server) : Prop where
  config : other.config = server.config
  route : other.route = server.route
  handler : other.handler = server.handler
  started : other.clock.started = server.clock.started

namespace Alike

variable {server other : Server}

/-- What still runs, the time and the record do not matter to a reply, nor to what is started. -/
theorem replyTo (alike : Alike server other) (engine : Engine) (request : Request) :
    other.replyTo engine request = server.replyTo engine request ∧
      other.startedBy engine request = server.startedBy engine request := by
  -- neither side mentions the record, the time or what runs
  obtain ⟨_, _, _, _, _, _, _⟩ := server
  obtain ⟨_, _, _, _, _, _, _⟩ := other
  obtain ⟨rfl, rfl, rfl, rfl⟩ := alike
  exact ⟨rfl, rfl⟩

theorem serve (alike : Alike server other) (engine : Engine) (fresh : Bytes) (request : Request) :
    (other.serve engine fresh request).1 = (server.serve engine fresh request).1 ∧
      Alike (server.serve engine fresh request).2.2 (other.serve engine fresh request).2.2 := by
  have one := server.served_serve engine fresh request
  have two := other.served_serve engine fresh request
  obtain ⟨reply, started⟩ := alike.replyTo engine (identified fresh request)
  obtain ⟨config, route, handler, count⟩ := one.frame
  obtain ⟨config', route', handler', count'⟩ := two.frame
  have calls : (other.serve engine fresh request).2.1.calls = (server.serve engine fresh request).2.1.calls := by
    rw [two.calls_eq, one.calls_eq, started]
  refine ⟨?_, ?_, ?_, ?_, ?_⟩
  · rw [two.reply_eq, one.reply_eq, reply]
  · rw [config', config, alike.config]
  · rw [route', route, alike.route]
  · rw [handler', handler, alike.handler]
  · rw [count', count, alike.started, calls]

theorem step (alike : Alike server other) (engine : Engine) (event : Event) :
    (other.step engine event).1.reply = (server.step engine event).1.reply ∧
      Alike (server.step engine event).2 (other.step engine event).2 := by
  cases event with
  | request request fresh =>
      obtain ⟨reply, after⟩ := alike.serve engine fresh request
      exact ⟨congrArg some reply, after⟩
  | change change =>
      exact ⟨rfl, alike.config, alike.route, congrArg (Handler.change · change) alike.handler, alike.started⟩
  | reconfigure config =>
      exact ⟨rfl, alike.config, alike.route,
        congrArg (Handler.change · (.options config.graphql.options)) alike.handler, alike.started⟩
  | advance milliseconds => exact ⟨rfl, alike.config, alike.route, alike.handler, alike.started⟩

/-- Servers that decide alike tell their clients the same. -/
theorem replies (alike : Alike server other) (engine : Engine) (events : List Event) :
    (run engine other events).1.map Report.reply = (run engine server events).1.map Report.reply := by
  induction events generalizing server other with
  | nil => rfl
  | cons event events ih =>
      obtain ⟨reply, after⟩ := alike.step engine event
      rw [run_cons, run_cons, List.map_cons, List.map_cons, reply, ih after]

end Alike

/-- In every run of a server with a deadline each request keeps it; whatever a request starts that will end, be it
of a batch that was cut off, ends once and when its time has come, or it still runs because its time has not come;
nothing else ends; and whatever still runs, the replies are the same. -/
theorem deadlines_kept_and_ends_told_once (engine : Engine) {server : Server} (time : server.deadline ≠ 0)
    (settled : server.clock.Settled) (events : List Event) :
    let seen := moments engine server events
    let last := (run engine server events).2.clock
    seen.map Moment.event = events ∧ seen.map Moment.report = (run engine server events).1 ∧
      (∀ moment ∈ seen, moment.KeepsDeadline engine) ∧
      (∃ ends, List.Forall₂ (Moment.Tells engine) seen ends ∧
        (ends.flatten ++ last.running).Perm (server.clock.running ++ seen.flatMap (Moment.dues engine)) ∧
        last.Settled) ∧
      ∀ other : Server, Alike server other →
        (run engine other events).1.map Report.reply = (run engine server events).1.map Report.reply := by
  intro seen last
  have next (state : Server) (event : Event) (time : state.deadline ≠ 0) :
      (step engine state event).2.deadline ≠ 0 ∧ (Moment.of engine state event).KeepsDeadline engine := by
    refine ⟨?_, keepsDeadline_step time engine event⟩
    rw [deadline_step]
    exact time
  have keeps : ∀ moment ∈ seen, moment.KeepsDeadline engine := forall_moments next time events
  exact ⟨map_event_moments engine server events, map_report_moments engine server events, keeps,
    exists_ends engine settled events, fun other alike => alike.replies engine events⟩

/-- A batch of which one query is slow. -/
def slowBatch : Request := postedBatch [.ofText "slow", .ofText "quick"]

/-- The batch is cut off at the deadline, and the slow query ends half a second later. -/
theorem slow_batch_told_at_deadline :
    (∃ headers, (Moment.of slowEngine ofOneSecond (.request slowBatch [])).report.reply =
        some (.response ⟨408, headers, ""⟩)) ∧
      ∃ ends, List.Forall₂ (Moment.Tells slowEngine)
          (moments slowEngine ofOneSecond [.request slowBatch [], .advance 500]) ends ∧
        (ends.flatten.map Due.time).Perm [1500, 0] := by
  obtain ⟨-, -, keeps, ⟨ends, told, once, -⟩, -⟩ := @deadlines_kept_and_ends_told_once slowEngine ofOneSecond
    (by decide) Clock.settled_zero [.request slowBatch [], .advance 500]
  have first : Moment.of slowEngine ofOneSecond (.request slowBatch []) ∈
      moments slowEngine ofOneSecond [.request slowBatch [], .advance 500] := by
    rw [moments_cons]
    exact List.mem_cons_self
  obtain ⟨-, reply, replied, kept⟩ := keeps _ first
  have late : ofOneSecond.isLate slowEngine (identified [] slowBatch) = true := by
    decide +kernel
  obtain ⟨task, member, long⟩ := List.any_eq_true.mp late
  obtain ⟨headers, same, -⟩ := kept.late task member (of_decide_eq_true long)
  have left : (run slowEngine ofOneSecond
      [.request slowBatch [], .advance 500]).2.clock.running.map Due.time = [] := by
    decide +kernel
  have times : ((moments slowEngine ofOneSecond [.request slowBatch [], .advance 500]).flatMap
      (Moment.dues slowEngine)).map Due.time = [1500, 0] := by
    decide +kernel
  refine ⟨⟨headers, replied.trans (congrArg some same)⟩, ends, told, ?_⟩
  have nothing : ofOneSecond.clock.running = [] := rfl
  rw [List.map_eq_nil_iff.mp left, List.append_nil, nothing, List.nil_append] at once
  have all := once.map Due.time
  rw [times] at all
  exact all

end Server

end QueryGateway
