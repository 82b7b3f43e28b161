import QueryGateway.Proofs.Served

/-!
# The record of requests

An answer that comes from a route, or from the lack of one, is recorded exactly once, under the method of its
request and the status that the client sees.  The layers around the record answer as well, a request that gets no
time, that announces too long a body or that is cut off at the deadline; nothing is recorded of these answers.
-/

namespace QueryGateway.Server

open Http GraphQL

/-! ## Answers -/

/-- The status of a reply; a panic has none. -/
def Reply.status? : Reply → Option Nat
  | .response answer => some answer.status
  | .panic _ => none

theorem Reply.status?_map {f : Response → Response} (keeps : ∀ answer, (f answer).status = answer.status)
    (reply : Reply) : (reply.map f).status? = reply.status? := by
  cases reply with
  | response answer => exact congrArg some (keeps answer)
  | panic message => rfl

/-- A request and its answer as they are recorded: the method, and the status if there is one. -/
def labels? (request : Request) (reply : Reply) : Option (String × Nat) :=
  reply.status?.map fun status => (request.head.method, status)

/-- The method of the request of a moment, with the status of its answer. -/
def Moment.answered? (moment : Moment) : Option (String × Nat) :=
  match moment.event with
  | .request request _ => moment.report.reply.bind (labels? request)
  | _ => none

theorem labels?_map_finish (server : Server) (request : Request) (reply : Reply) :
    labels? request (reply.map (server.finish request)) = labels? request reply := by
  unfold labels?
  rw [Reply.status?_map (server.status_finish request)]

theorem labels?_timedOut (server : Server) (request : Request) :
    labels? request (.response (server.finish request timedOut)) =
      some (request.head.method, timedOut.status) := by
  rw [← server.status_finish request timedOut]
  rfl

theorem labels?_lengthExceeded (server : Server) (request : Request) :
    labels? request (.response (server.finish request lengthExceeded)) =
      some (request.head.method, lengthExceeded.status) := by
  rw [← server.status_finish request lengthExceeded]
  rfl

theorem labels?_identified (fresh : Bytes) (request : Request) (reply : Reply) :
    labels? (identified fresh request) reply = labels? request reply := by
  unfold labels?
  rw [method_identified]

/-! ## One step -/

/-- Whether a request is answered by a layer around the record. -/
def cutsShort (server : Server) (engine : Engine) (request : Request) : Bool :=
  server.deadline = 0 || server.announcesTooMuch request ||
    server.reaches request && server.deadline ≤ (server.handling engine request).duration

/-- Whether the request of a moment is answered by a layer around the record. -/
def Moment.isCutShort (engine : Engine) (moment : Moment) : Bool :=
  match moment.event with
  | .request request fresh => moment.before.cutsShort engine (identified fresh request)
  | _ => false

section

variable {server : Server} {engine : Engine} {request : Request}

theorem cutsShort_of_noTime (none : server.deadline = 0) : server.cutsShort engine request = true := by
  unfold cutsShort
  rw [decide_eq_true none, Bool.true_or, Bool.true_or]

theorem cutsShort_of_tooMuch (long : server.announcesTooMuch request = true) :
    server.cutsShort engine request = true := by
  unfold cutsShort
  rw [long, Bool.or_true, Bool.true_or]

theorem cutsShort_of_cutOff (reached : server.reaches request = true)
    (late : server.deadline ≤ (server.handling engine request).duration) :
    server.cutsShort engine request = true := by
  unfold cutsShort
  rw [reached, decide_eq_true late, Bool.and_true, Bool.or_true]

theorem not_cutsShort_of_unknown (time : server.deadline ≠ 0) (short : server.announcesTooMuch request = false)
    (other : server.route.accepts request.head.uri.path = false) :
    ¬server.cutsShort engine request = true := by
  have stopped := Bool.eq_false_iff.mpr (@not_reaches_of_unknown server request other)
  unfold cutsShort
  rw [decide_eq_false time, short, stopped, Bool.false_and, Bool.or_self, Bool.or_self]
  exact nofun

theorem not_cutsShort_of_timely (reached : server.reaches request = true)
    (timely : (server.handling engine request).duration < server.deadline) :
    ¬server.cutsShort engine request = true := by
  obtain ⟨time, short, -⟩ := reaches_iff.mp reached
  have inTime := decide_eq_false (Nat.not_le.mpr timely)
  unfold cutsShort
  rw [decide_eq_false time, short, inTime, Bool.and_false, Bool.or_self, Bool.or_self]
  exact nofun

/-- A handling that is over records its answer. -/
theorem requests_record (metrics : Metrics) (request : Request) (size : Option Nat) (reply : Reply) :
    (record metrics request.head.method size (some reply)).requests =
      metrics.requests ++ (labels? request reply).toList := by
  cases reply with
  | response answer => cases size <;> rfl
  | panic message =>
      have nothing : (labels? request (.panic message)).toList = [] := rfl
      rw [nothing, List.append_nil]
      cases size <;> rfl

/-- A handling that is cut off records no answer. -/
theorem requests_record_none (metrics : Metrics) (method : String) (size : Option Nat) :
    (record metrics method size none).requests = metrics.requests := by
  cases size <;> rfl

/-- What one request adds to the record: its answer, unless a layer around the record gave it. -/
theorem Served.requests_eq {result : Reply × Activity × Server} (served : Served server engine request result) :
    result.2.2.metrics.requests = server.metrics.requests ++
      if server.cutsShort engine request = true then [] else (labels? request result.1).toList := by
  cases served with
  | noTime none =>
      rw [if_pos (cutsShort_of_noTime none), List.append_nil]
      rfl
  | tooMuch time long =>
      rw [if_pos (cutsShort_of_tooMuch long), List.append_nil]
      rfl
  | unknown time short other =>
      rw [if_neg (not_cutsShort_of_unknown time short other)]
      have answered := server.labels?_map_finish request (.response unknownPath)
      exact congrArg (fun entry => server.metrics.requests ++ Option.toList entry) answered.symm
  | inTime reached timely =>
      rw [if_neg (not_cutsShort_of_timely reached timely), labels?_map_finish]
      exact requests_record server.metrics request _ _
  | cutOff reached late =>
      rw [if_pos (cutsShort_of_cutOff reached late), List.append_nil]
      exact requests_record_none server.metrics request.head.method _

/-- The layers around the record answer with two statuses only. -/
theorem Served.labels?_of_cutsShort {result : Reply × Activity × Server}
    (served : Served server engine request result) (short : server.cutsShort engine request = true) :
    labels? request result.1 = some (request.head.method, timedOut.status) ∨
      labels? request result.1 = some (request.head.method, lengthExceeded.status) := by
  cases served with
  | noTime none => exact Or.inl (server.labels?_timedOut request)
  | tooMuch time long => exact Or.inr (server.labels?_lengthExceeded request)
  | unknown time within other => exact absurd short (not_cutsShort_of_unknown time within other)
  | inTime reached timely => exact absurd short (not_cutsShort_of_timely reached timely)
  | cutOff reached late => exact Or.inl (server.labels?_timedOut request)

end

/-- What one step adds to the record. -/
theorem requests_step (engine : Engine) (server : Server) (event : Event) :
    (step engine server event).2.metrics.requests = server.metrics.requests ++
      if (Moment.of engine server event).isCutShort engine = true then []
      else (Moment.of engine server event).answered?.toList := by
  cases event with
  | request request fresh =>
      have served := (server.served_serve engine fresh request).requests_eq
      -- the request is served with an identifier, and recorded without
      rw [labels?_identified] at served
      exact served
  | change | reconfigure | advance => exact (List.append_nil _).symm

section

variable (method : String) (status : Nat)

/-- Whether the request of a moment has a method and is answered with a status. -/
def Moment.isAnswered (moment : Moment) : Bool := moment.answered? = some (method, status)

theorem status_eq_of_isAnswered {moment : Moment} {method other : String} {status another : Nat}
    (first : moment.isAnswered method status = true) (second : moment.isAnswered other another = true) :
    status = another := by
  have same := (of_decide_eq_true first).symm.trans (of_decide_eq_true second)
  cases same
  rfl

/-- The layers around the record answer every request that they cut short. -/
theorem isAnswered_of_isCutShort {engine : Engine} {server : Server} {event : Event}
    (short : (Moment.of engine server event).isCutShort engine = true) :
    ∃ method, (Moment.of engine server event).isAnswered method 408 = true ∨
      (Moment.of engine server event).isAnswered method 413 = true := by
  cases event with
  | request request fresh =>
      have answered := (server.served_serve engine fresh request).labels?_of_cutsShort short
      rw [labels?_identified] at answered
      exact ⟨_, answered.imp decide_eq_true decide_eq_true⟩
  | change | reconfigure | advance => cases short

/-- What one step adds to a counter. -/
theorem requestsTotal_step (engine : Engine) (server : Server) (event : Event) :
    (step engine server event).2.metrics.requestsTotal method status =
      server.metrics.requestsTotal method status +
        if ((Moment.of engine server event).isAnswered method status &&
          !(Moment.of engine server event).isCutShort engine) = true then 1 else 0 := by
  unfold Metrics.requestsTotal Moment.isAnswered
  rw [requests_step, List.count_append]
  cases short : (Moment.of engine server event).isCutShort engine with
  | true => rw [if_pos rfl, Bool.not_true, Bool.and_false, if_neg nofun, List.count_nil]
  | false =>
      rw [if_neg nofun, Bool.not_false, Bool.and_true]
      cases (Moment.of engine server event).answered? with
      | none => rfl
      | some entry =>
          simp only [Option.toList_some, List.count_singleton, Option.some.injEq, beq_iff_eq, decide_eq_true_eq]

/-! ## Runs -/

/-- A counter counts the requests of a run that no layer around the record answers. -/
theorem requestsTotal_run (engine : Engine) (server : Server) (events : List Event) :
    (run engine server events).2.metrics.requestsTotal method status =
      server.metrics.requestsTotal method status +
        (moments engine server events).countP fun moment =>
          moment.isAnswered method status && !moment.isCutShort engine := by
  induction events generalizing server with
  | nil => rfl
  | cons event events ih =>
      rw [run_cons, moments_cons, ih, requestsTotal_step, List.countP_cons, Nat.add_assoc,
        Nat.add_comm (ite _ _ _)]

end

/-- A counter counts each request with its method that is answered with its status, exactly once, unless a layer
around the record answers it; these layers answer every request that they cut short, with two statuses, and so the
counters of all other statuses count every request. -/
theorem answers_counted_unless_cut_short (engine : Engine) (server : Server) (events : List Event) :
    let seen := moments engine server events
    let after := (run engine server events).2
    seen.map Moment.event = events ∧ seen.map Moment.report = (run engine server events).1 ∧
      (∀ method status, after.metrics.requestsTotal method status =
        server.metrics.requestsTotal method status +
          seen.countP fun moment => moment.isAnswered method status && !moment.isCutShort engine) ∧
      (∀ moment ∈ seen, moment.isCutShort engine = true →
        ∃ method, moment.isAnswered method 408 = true ∨ moment.isAnswered method 413 = true) ∧
      ∀ method status, status ≠ 408 → status ≠ 413 →
        after.metrics.requestsTotal method status =
          server.metrics.requestsTotal method status + seen.countP (Moment.isAnswered method status) := by
  intro seen after
  have total (method : String) (status : Nat) : after.metrics.requestsTotal method status =
      server.metrics.requestsTotal method status +
        seen.countP fun moment => moment.isAnswered method status && !moment.isCutShort engine :=
    requestsTotal_run method status engine server events
  have cutShort : ∀ moment ∈ seen, moment.isCutShort engine = true →
      ∃ method, moment.isAnswered method 408 = true ∨ moment.isAnswered method 413 = true :=
    forall_moments (fun _ _ (_ : True) => ⟨trivial, isAnswered_of_isCutShort⟩) trivial events
  refine ⟨map_event_moments engine server events, map_report_moments engine server events, total, cutShort, ?_⟩
  intro method status notTimedOut notExceeded
  rw [total]
  congr 1
  apply List.countP_congr
  intro moment member
  rw [Bool.and_eq_true, Bool.not_eq_true']
  refine ⟨And.left, fun answered => ⟨answered, ?_⟩⟩
  -- what is cut short has one of the two statuses, and no other
  rw [← Bool.not_eq_true]
  intro short
  obtain ⟨_, timedOut | exceeded⟩ := cutShort moment member short
  · exact notTimedOut (status_eq_of_isAnswered answered timedOut)
  · exact notExceeded (status_eq_of_isAnswered answered exceeded)

/-- The slow request is answered, but by a layer around the record. -/
theorem answered_and_cut_short :
    (Moment.of slowEngine ofOneSecond (.request slowRequest [])).isCutShort slowEngine = true ∧
      ∃ method, (Moment.of slowEngine ofOneSecond (.request slowRequest [])).isAnswered method 408 = true ∨
        (Moment.of slowEngine ofOneSecond (.request slowRequest [])).isAnswered method 413 = true := by
  have short : (Moment.of slowEngine ofOneSecond (.request slowRequest [])).isCutShort slowEngine = true := by
    decide +kernel
  have member : Moment.of slowEngine ofOneSecond (.request slowRequest []) ∈
      moments slowEngine ofOneSecond [.request slowRequest []] := List.mem_singleton_self _
  exact ⟨short, (answers_counted_unless_cut_short slowEngine ofOneSecond
    [.request slowRequest []]).2.2.2.1 _ member short⟩

/-- A request that takes too long is answered at its deadline, and no counter counts it. -/
theorem late_answer_not_counted :
    ¬∀ (config : Config) (server : Server) (engine : Engine) (events : List Event) (method : String)
      (status : Nat), new? config = some server →
        (run engine server events).2.metrics.requestsTotal method status =
          (moments engine server events).countP (Moment.isAnswered method status) := by
  intro all
  have counted := all oneSecond ofOneSecond slowEngine [.request slowRequest []] "GET" 408 new?_oneSecond
  have recorded : (run slowEngine ofOneSecond [.request slowRequest []]).2.metrics.requestsTotal "GET" 408 = 0 := by
    with_unfolding_all rfl
  have answered : (moments slowEngine ofOneSecond [.request slowRequest []]).countP
      (Moment.isAnswered "GET" 408) = 1 := by
    with_unfolding_all rfl
  rw [recorded, answered] at counted
  cases counted

end QueryGateway.Server
