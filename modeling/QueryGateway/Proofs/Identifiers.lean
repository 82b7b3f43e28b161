import QueryGateway.Proofs.LayeredAnswers

/-!
# Identifiers of requests

A request has one identifier, from its arrival to its answer: the first one that it brings, or else a fresh one.
Whatever answers the request, the answer carries this identifier and no other.  Whatever the request makes the
engine execute is given this identifier, as far as it is plain text; and an execution that ends later, while
another request is served, is still the one that its own request has started.
-/

namespace QueryGateway

open Http

namespace Utf8

/-- Octets of plain text are the writing of one character each. -/
theorem encode_plain {octets : Bytes} (plain : ∀ octet ∈ octets, isPlainOctet octet = true) :
    encode (octets.map fun octet => Char.ofNat octet.toNat) = octets := by
  induction octets with
  | nil => rfl
  | cons octet octets ih =>
      have first := plain octet List.mem_cons_self
      have ascii : octet.toNat < 0x80 := by
        simp only [isPlainOctet, Bool.or_eq_true, decide_eq_true_eq, Bool.and_eq_true] at first
        rcases first with tab | ⟨-, visible⟩
        · rw [tab]
          decide
        · omega
      have others := ih fun other member => plain other (List.mem_cons_of_mem octet member)
      rw [List.map_cons, encode_cons, encodeChar_one ascii, others]
      rfl

end Utf8

namespace Http

/-- What is read of an identifier: its text if all of it is visible ASCII, spaces and tabs, and nothing otherwise. -/
inductive ReadsAs (id : Bytes) : Option String → Prop
  | text {s : String} (plain : ∀ octet ∈ id, isPlainOctet octet = true) (same : Bytes.ofString s = id) :
      ReadsAs id (some s)
  | nothing {octet : UInt8} (member : octet ∈ id) (other : isPlainOctet octet = false) : ReadsAs id none

theorem readsAs_plainText? (id : Bytes) : ReadsAs id (plainText? id) := by
  unfold plainText?
  split
  next plain =>
    have each := List.all_eq_true.mp plain
    refine .text each ?_
    rw [Bytes.ofString_ofList, Utf8.encode_plain each]
  next other =>
    rw [Bool.not_eq_true, List.all_eq_false] at other
    obtain ⟨octet, member, unplain⟩ := other
    exact .nothing member (Bool.eq_false_iff.mpr unplain)

end Http

namespace GraphQL

/-- Every execution that a request starts is given what the handler makes of the head of this request. -/
theorem Handler.context_of_started {handler : Handler} {engine : Engine} {ordinal : Nat} {limit : Option Nat}
    {request : Request} {execution : Execution}
    (member : execution ∈ (handler.handle engine ordinal limit request).started.map Started.execution) :
    execution.context = handler.providers.context request.head := by
  rcases handler.handle_cases engine ordinal limit request with ⟨rejection, -, same⟩ | ⟨plan, decided, -, calls⟩
  · rw [same] at member
    cases member
  · rw [calls] at member
    obtain ⟨queries, executes⟩ := executes_of_plan decided
    obtain ⟨values, -, executions⟩ := executes.inherited
    rw [executions] at member
    obtain ⟨query, -, made⟩ := List.mem_map.mp member
    rw [← made]
    rfl

end GraphQL

namespace Server

open GraphQL

/-! ## One moment -/

/-- A moment in which a request is served has one identifier. -/
structure Moment.HasIdentity (moment : Moment) (id : Bytes) : Prop where
  /-- Whatever is answered carries the identifier, once. -/
  answered : ∀ answer, moment.report.reply = some (.response answer) →
    answer.headers.values requestIdName = [id]
  /-- Whatever is executed sees the head of the request, in which this identifier is read. -/
  executed : moment.before.handler.providers.context = ContextProvider.request →
    ∀ execution ∈ moment.report.activity.calls,
      ∃ head, execution.context = .request head ∧ ReadsAs id head.requestId?

theorem readsAs_identified (fresh : Bytes) (request : Request) :
    ReadsAs (identityOf fresh request) (identified fresh request).head.requestId? := by
  rw [Head.requestId?, first?_identified]
  exact readsAs_plainText? (identityOf fresh request)

theorem hasIdentity_of_request (engine : Engine) (server : Server) (request : Request) (fresh : Bytes) :
    (Moment.of engine server (.request request fresh)).HasIdentity (identityOf fresh request) where
  answered := by
    intro answer replied
    have served := server.served_serve engine fresh request
    obtain ⟨plain, bare, same⟩ := served.exists_bare (Option.some.inj replied)
    rw [same, values_finish_requestId bare, identifier_identified]
  executed := by
    intro standard execution member
    have served := server.served_serve engine fresh request
    have called : execution ∈
        (server.startedBy engine (identified fresh request)).map Started.execution := by
      rw [← served.calls_eq]
      exact member
    refine ⟨(identified fresh request).head, ?_, readsAs_identified fresh request⟩
    unfold startedBy at called
    split at called
    · have given := Handler.context_of_started called
      have provider : server.handler.providers.context = ContextProvider.request := standard
      rw [given, provider]
      rfl
    · cases called

theorem hasIdentity_step (engine : Engine) (server : Server) (event : Event) (request : Request) (fresh : Bytes)
    (here : (Moment.of engine server event).event = .request request fresh) :
    (Moment.of engine server event).HasIdentity (identityOf fresh request) := by
  have same : event = .request request fresh := here
  rw [same]
  exact hasIdentity_of_request engine server request fresh

/-! ## Runs -/

/-- Whatever a moment starts that will end is told to be started in it. -/
theorem execution_of_mem_dues {engine : Engine} {server : Server} {event : Event} {due : Due}
    (member : due ∈ (Moment.of engine server event).dues engine) :
    due.execution ∈ (Moment.of engine server event).report.activity.calls := by
  cases event with
  | change | reconfigure | advance => cases member
  | request request fresh =>
      have served := server.served_serve engine fresh request
      have calls : (Moment.of engine server (.request request fresh)).report.activity.calls =
          (server.startedBy engine (identified fresh request)).map Started.execution := served.calls_eq
      rw [calls]
      have started : due ∈ (server.startedBy engine (identified fresh request)).filterMap server.clock.due? := by
        have inDues : due ∈ server.dues engine (identified fresh request) := member
        unfold dues at inDues
        split at inDues
        · cases inDues
        · exact inDues
      obtain ⟨task, inStarted, became⟩ := List.mem_filterMap.mp started
      unfold Clock.due? at became
      split at became
      · cases became
      · cases became
        exact List.mem_map.mpr ⟨task, inStarted, rfl⟩

theorem mem_calls_of_dues {engine : Engine} {server : Server} {events : List Event} {due : Due}
    (member : due ∈ (moments engine server events).flatMap (Moment.dues engine)) :
    ∃ starter ∈ moments engine server events, due.execution ∈ starter.report.activity.calls := by
  obtain ⟨starter, inRun, started⟩ := List.mem_flatMap.mp member
  have provenance : ∀ moment ∈ moments engine server events,
      due ∈ moment.dues engine → due.execution ∈ moment.report.activity.calls :=
    forall_moments (fun _ _ (_ : True) => ⟨trivial, execution_of_mem_dues⟩) trivial events
  exact ⟨starter, inRun, provenance starter inRun started⟩

/-- Every execution that ends in a run of a new server was started in it. -/
theorem started_of_finished {engine : Engine} {server : Server} (idle : server.clock.running = [])
    {events : List Event} {moment : Moment} (member : moment ∈ moments engine server events)
    {execution : Execution} (finished : execution ∈ moment.report.activity.finished) :
    ∃ starter ∈ moments engine server events, execution ∈ starter.report.activity.calls := by
  have settled : server.clock.Settled := by
    intro due running
    rw [idle] at running
    cases running
  obtain ⟨ends, told, once, -⟩ := exists_ends engine settled events
  obtain ⟨ended, among, tells⟩ := Shape.exists_of_forall₂ told member
  rw [tells.finished] at finished
  obtain ⟨due, inEnded, same⟩ := List.mem_map.mp finished
  have all : due ∈ ends.flatten ++ (run engine server events).2.clock.running :=
    List.mem_append_left _ (List.mem_flatten.mpr ⟨ended, among, inEnded⟩)
  have started := once.mem_iff.mp all
  rw [idle, List.nil_append] at started
  rw [← same]
  exact mem_calls_of_dues started

/-- In every run of a new server each request has one identifier: its answer carries it, once, whoever gives the
answer, and every execution of the request sees it.  Whatever ends was started in the run by a request, and so it
keeps the identifier of this request, while others are served. -/
theorem one_identifier_throughout {config : Config} {start : Server} (built : new? config = some start)
    (engine : Engine) (events : List Event) :
    let seen := moments engine start events
    seen.map Moment.event = events ∧ seen.map Moment.report = (run engine start events).1 ∧
      (∀ moment ∈ seen, ∀ request fresh, moment.event = .request request fresh →
        moment.HasIdentity (identityOf fresh request)) ∧
      ∀ moment ∈ seen, ∀ execution ∈ moment.report.activity.finished,
        ∃ starter ∈ seen, execution ∈ starter.report.activity.calls := by
  intro seen
  have idle : start.clock.running = [] := by
    obtain ⟨route, -, same⟩ := Option.map_eq_some_iff.mp built
    rw [← same]
    rfl
  have identities : ∀ moment ∈ seen, ∀ request fresh, moment.event = .request request fresh →
      moment.HasIdentity (identityOf fresh request) :=
    forall_moments (fun server event (_ : True) => ⟨trivial, hasIdentity_step engine server event⟩) trivial events
  refine ⟨map_event_moments engine start events, map_report_moments engine start events, identities, ?_⟩
  intro moment member execution finished
  exact started_of_finished idle member finished

/-- The slow batch with two identifiers, of which the second one is not plain text. -/
def twiceIdentified : Request :=
  { slowBatch with head := { slowBatch.head with
      headers := [(requestIdName, Bytes.ofString "first"), (requestIdName, Bytes.ofString "zweite Kennung, süß")] } }

/-- The batch is cut off at its deadline, and has the first of its identifiers in its answer and in its queries. -/
theorem slow_batch_has_first_identifier :
    (Moment.of slowEngine ofOneSecond (.request twiceIdentified [])).HasIdentity (Bytes.ofString "first") ∧
      (∃ answer, (Moment.of slowEngine ofOneSecond (.request twiceIdentified [])).report.reply =
        some (.response answer) ∧ answer.status = 408) ∧
      (Moment.of slowEngine ofOneSecond (.request twiceIdentified [])).report.activity.calls.length = 2 := by
  have member : Moment.of slowEngine ofOneSecond (.request twiceIdentified []) ∈
      moments slowEngine ofOneSecond [.request twiceIdentified []] := List.mem_singleton_self _
  have identities := (one_identifier_throughout new?_oneSecond slowEngine [.request twiceIdentified []]).2.2.1
  have late : ofOneSecond.isLate slowEngine (identified [] twiceIdentified) = true := by
    decide +kernel
  have served := ofOneSecond.served_serve slowEngine [] twiceIdentified
  have replied := served.reply_eq
  rw [replyTo, if_pos (Or.inr late)] at replied
  refine ⟨identities _ member twiceIdentified [] rfl, ⟨_, congrArg some replied, ?_⟩, ?_⟩
  · exact status_finish _ _ timedOut
  · decide +kernel

end Server

end QueryGateway
