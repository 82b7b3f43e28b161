import QueryGateway.GraphQL.Session
import QueryGateway.Proofs.BodyLimits
import QueryGateway.Proofs.RequestRecord

/-!
# Requests do not influence each other

An engine is consistent in its outcomes if what an execution ends in depends on nothing but what is executed.  Under
such an engine nothing of earlier requests shows in a later one, however they ended and whatever of them is still
running: handlers with the same options and the same providers answer a request alike and hand over the same to the
engine, whatever they were through, and so do servers that were built from the same configuration.  Only the
identifiers that requests are given may differ, and what is made of them.  A request that is sent twice is answered
twice the same.
-/

namespace QueryGateway

open Http

namespace GraphQL

/-! ## Consistent engines -/

section

variable {α : Type} {engine : Engine} {observe : Behaviour → α}

/-- What is observed of an execution does not depend on how many were started before it. -/
def Engine.Consistent (engine : Engine) (observe : Behaviour → α) : Prop :=
  ∀ ordinal other execution, observe (engine ordinal execution) = observe (engine other execution)

/-- What is observed of a query does not depend on with which of two heads it came, either. -/
def Engine.Ignores (engine : Engine) (observe : Behaviour → α) (providers : Providers) (head other : Head) : Prop :=
  ∀ query ordinal place,
    observe (engine place (providers.execution other query)) =
      observe (engine ordinal (providers.execution head query))

theorem Engine.Consistent.ignores (consistent : engine.Consistent observe) {head other : Head} (same : other = head)
    (providers : Providers) : engine.Ignores observe providers head other := by
  intro query ordinal place
  rw [same]
  exact consistent place ordinal _

/-- A scripted engine goes by the query only. -/
theorem Engine.consistent_scripted (rules : List Engine.Rule) (observe : Behaviour → α) :
    (Engine.scripted rules).Consistent observe := fun _ _ _ => rfl

end

/-! ## Requests with the same verdict -/

/-- The queries that are executed on a verdict. -/
def Verdict.queries : Verdict → List Query
  | .reject _ _ => []
  | .single query => [query]
  | .batch queries => queries

section

variable {handler : Handler} {limit : Option Nat} {request other : Request} {verdict : Verdict}

/-- The rules look at nothing of a head but its method, its target, and its content type. -/
theorem rules_congr (method : other.head.method = request.head.method) (uri : other.head.uri = request.head.uri)
    (type : Handler.contentType other.head = Handler.contentType request.head) (body : other.body = request.body) :
    rules Query.ShapedAs limit handler.options other = rules Query.ShapedAs limit handler.options request := by
  unfold rules headRules bodyRules documentRules queryRules
  unfold Rule.otherMethod Rule.getWithoutQuery Rule.faultyVariables Rule.targetQuery Rule.otherMediaType
    Rule.brokenBody Rule.longBody Rule.notText Rule.bodyText Rule.malformed Rule.scalar Rule.misshapenObject
    Rule.misshapenList Rule.objectWithoutText Rule.object Rule.batchingDisabled Rule.itemWithoutText Rule.batch Holds
  simp only [typeIs_iff]
  rw [method, uri, type, body]

theorem Planned.calls (planned : Planned handler limit request verdict) (engine : Engine) (ordinal : Nat) :
    (handler.handle engine ordinal limit request).started.map Started.execution =
      verdict.queries.map (handler.providers.execution request.head) := by
  have met := planned.isMet engine ordinal
  cases verdict with
  | reject status rejection =>
      rw [met.1]
      rfl
  | single query => exact met.1
  | batch queries => exact met.1

section

variable (one : Planned handler limit request verdict) (two : Planned handler limit other verdict) {engine : Engine}
include one two

/-- Of requests on which the verdict is the same, the same is observed if the engine ignores by what their heads
differ. -/
theorem Planned.observed {α : Type} {observe : Behaviour → α}
    (ignores : engine.Ignores observe handler.providers request.head other.head) (ordinal place : Nat) :
    (handler.handle engine place limit other).started.map (fun task => observe task.behaviour) =
      (handler.handle engine ordinal limit request).started.map fun task => observe task.behaviour := by
  obtain ⟨onePlan, -⟩ := one
  obtain ⟨twoPlan, -⟩ := two
  cases verdict with
  | reject status rejection => rw [Handler.handle_of_rejected onePlan, Handler.handle_of_rejected twoPlan]
  | single query =>
      rw [Handler.handle_of_accepted onePlan, Handler.handle_of_accepted twoPlan]
      exact congrArg ([·]) (ignores query ordinal place)
  | batch queries =>
      rw [Handler.handle_of_accepted onePlan, Handler.handle_of_accepted twoPlan]
      simp only [Engine.start_eq_mapIdx]
      refine List.ext_getElem ?_ fun index _ _ => ?_
      · simp only [Plan.executions, List.length_map, List.length_mapIdx]
      · simp only [Plan.executions, List.getElem_map, List.getElem_mapIdx]
        exact ignores _ (ordinal + index) (place + index)

theorem Planned.ending_eq
    (ignores : engine.Ignores Behaviour.outcome handler.providers request.head other.head) (ordinal place : Nat) :
    (handler.handle engine place limit other).ending = (handler.handle engine ordinal limit request).ending := by
  have outcomes := one.observed two ignores ordinal place
  obtain ⟨onePlan, -⟩ := one
  obtain ⟨twoPlan, -⟩ := two
  cases verdict with
  | reject status rejection => rw [Handler.handle_of_rejected onePlan, Handler.handle_of_rejected twoPlan]
  | single query =>
      rw [Handler.handle_of_accepted onePlan, Handler.handle_of_accepted twoPlan]
      exact congrArg Ending.ofOutcome (ignores query ordinal place)
  | batch queries =>
      rw [Handler.handle_of_accepted onePlan, Handler.handle_of_accepted twoPlan] at outcomes ⊢
      simp only [Plan.ending, Pool.joined_eq]
      exact congrArg Ending.ofOutcomes outcomes

end

end

/-! ## Handlers -/

namespace Session

/-- Two reports of a request tell the same: it ended alike, and the same was handed to the engine. -/
structure AnsweredAlike (report other : Report) : Prop where
  ending : other.ending = report.ending
  calls : other.activity.calls = report.activity.calls

/-- Only the handler of a session matters to a request. -/
theorem answeredAlike_of_handler {engine : Engine} (consistent : engine.Consistent Behaviour.outcome)
    {session other : Session} (same : other.handler = session.handler) (request : Request) :
    AnsweredAlike (session.step engine (.request request)).1 (other.step engine (.request request)).1 := by
  obtain ⟨handler, clock⟩ := session
  obtain ⟨_, otherClock⟩ := other
  cases same
  obtain ⟨⟨verdict, first⟩, planned⟩ := decides_request handler none request
  have here := planned verdict first
  have ignores := consistent.ignores (Eq.refl request.head) handler.providers
  constructor
  · exact congrArg some (here.ending_eq here ignores clock.started otherClock.started)
  · exact (here.calls engine otherClock.started).trans (here.calls engine clock.started).symm

end Session

end GraphQL

/-! ## Servers -/

namespace Server

open GraphQL

/-- The reply to a request, before the layers add to it. -/
def bareReply (server : Server) (engine : Engine) (request : Request) : Reply :=
  if server.deadline = 0 ∨ server.isLate engine request = true then .response timedOut
  else if server.announcesTooMuch request = true then .response lengthExceeded
  else if server.route.accepts request.head.uri.path = true then .ofEnding (server.handling engine request).ending
  else .response unknownPath

theorem replyTo_eq_map (server : Server) (engine : Engine) (request : Request) :
    server.replyTo engine request = (server.bareReply engine request).map (server.finish request) := by
  unfold replyTo bareReply patientReply
  split
  · rfl
  · rfl

/-- The identifier of a request does not matter to the verdict. -/
theorem planned_identified {handler : Handler} {limit : Option Nat} {request : Request} {verdict : Verdict}
    (first : FirstOf (rules Query.ShapedAs limit handler.options request) verdict) (fresh : Bytes) :
    Planned handler limit (identified fresh request) verdict := by
  refine (decides_request handler limit (identified fresh request)).2 verdict ?_
  have type : Handler.contentType (identified fresh request).head = Handler.contentType request.head :=
    contentType_identify fresh request.head
  have body : (identified fresh request).body = request.body := rfl
  rw [rules_congr (method_identified fresh request) (uri_identified fresh request) type body]
  exact first

/-- There is one verdict on a request, whatever identifier it is given. -/
theorem exists_planned (handler : Handler) (limit : Option Nat) (fresh another : Bytes) (request : Request) :
    ∃ verdict, Planned handler limit (identified fresh request) verdict ∧
      Planned handler limit (identified another request) verdict := by
  obtain ⟨verdict, first⟩ := (decides_request handler limit request).1
  exact ⟨verdict, planned_identified first fresh, planned_identified first another⟩

/-- Two servers have the same settings: they were built from the same configuration, and their handlers have the same
options and providers.  Their clocks and their records may differ. -/
structure SameSettings (server other : Server) : Prop where
  config : other.config = server.config
  route : other.route = server.route
  handler : other.handler = server.handler

/-- A request is late with two servers, for each of which it has an identifier, or with none of them. -/
def LateAlike (engine : Engine) (request : Request) (fresh another : Bytes) (server other : Server) : Prop :=
  other.isLate engine (identified another request) = server.isLate engine (identified fresh request)

/-- A request that is given one of two identifiers is answered alike by two servers. -/
structure AnsweredAlike (engine : Engine) (request : Request) (fresh another : Bytes) (server other : Server)
    (result otherResult : Reply × Activity × Server) : Prop where
  /-- The same queries are handed to the engine, each with the head that has the identifier. -/
  calls : ∃ queries : List Query,
    result.2.1.calls = queries.map (server.handler.providers.execution (identified fresh request).head) ∧
      otherResult.2.1.calls = queries.map (server.handler.providers.execution (identified another request).head)
  /-- If the engine ignores the identifier, then the replies are the same, but for the identifier, unless the request
  is late with one of the servers only. -/
  reply : engine.Ignores Behaviour.outcome server.handler.providers (identified fresh request).head
      (identified another request).head → LateAlike engine request fresh another server other →
    ∃ bare : Reply, result.1 = bare.map (server.finish (identified fresh request)) ∧
      otherResult.1 = bare.map (server.finish (identified another request))
  /-- It is not, if the engine takes no time for the identifier. -/
  late : engine.Ignores Behaviour.delay server.handler.providers (identified fresh request).head
      (identified another request).head → LateAlike engine request fresh another server other
  /-- If the two identifiers are the same, or if the request brings its own, then nothing differs: in what is handed
  to the engine never, and in the reply not if executions always take the same time. -/
  identical : identified another request = identified fresh request →
    otherResult.2.1.calls = result.2.1.calls ∧
      (LateAlike engine request fresh another server other → otherResult.1 = result.1) ∧
      (engine.Consistent Behaviour.delay → otherResult.1 = result.1)

namespace SameSettings

section

variable {server other : Server} {engine : Engine} (same : SameSettings server other)
include same

theorem deadline : other.deadline = server.deadline := by
  rw [Server.deadline, Server.deadline, same.config]

variable (fresh another : Bytes) (request : Request)

theorem announcesTooMuch :
    other.announcesTooMuch (identified another request) = server.announcesTooMuch (identified fresh request) := by
  rw [announcesTooMuch_identified, announcesTooMuch_identified]
  rw [Server.announcesTooMuch, Server.announcesTooMuch, same.config]

theorem accepts :
    other.route.accepts (identified another request).head.uri.path =
      server.route.accepts (identified fresh request).head.uri.path := by
  rw [uri_identified, uri_identified, same.route]

theorem reaches : other.reaches (identified another request) = server.reaches (identified fresh request) := by
  rw [Server.reaches, Server.reaches, same.deadline, same.announcesTooMuch fresh, same.accepts fresh]

theorem finish : other.finish request = server.finish request := by
  funext answer
  rw [Server.finish, Server.finish, same.route]

theorem handling :
    other.handling engine (identified another request) =
      server.handler.handle engine other.clock.started (some (server.readLimit (identified fresh request)))
        (identified another request) := by
  have limit : other.readLimit (identified another request) = server.readLimit (identified fresh request) := by
    rw [readLimit_identified, readLimit_identified, readLimit, readLimit, same.config]
  rw [Server.handling, limit, same.handler]

/-- The same queries are handed over, whichever server the request gets to, and whatever identifier it is given. -/
theorem exists_queries : ∃ queries : List Query,
    (server.startedBy engine (identified fresh request)).map Started.execution =
        queries.map (server.handler.providers.execution (identified fresh request).head) ∧
      (other.startedBy engine (identified another request)).map Started.execution =
        queries.map (server.handler.providers.execution (identified another request).head) := by
  obtain ⟨verdict, one, two⟩ :=
    exists_planned server.handler (some (server.readLimit (identified fresh request))) fresh another request
  unfold startedBy
  rw [same.reaches fresh, same.handling fresh]
  split
  · exact ⟨verdict.queries, one.calls engine server.clock.started, two.calls engine other.clock.started⟩
  · exact ⟨[], rfl, rfl⟩

theorem lateAlike
    (ignores : engine.Ignores Behaviour.delay server.handler.providers (identified fresh request).head
      (identified another request).head) : LateAlike engine request fresh another server other := by
  obtain ⟨verdict, one, two⟩ :=
    exists_planned server.handler (some (server.readLimit (identified fresh request))) fresh another request
  have delays : (other.startedBy engine (identified another request)).map (fun task => task.behaviour.delay) =
      (server.startedBy engine (identified fresh request)).map fun task => task.behaviour.delay := by
    unfold startedBy
    rw [same.reaches fresh, same.handling fresh]
    split
    · exact one.observed two ignores server.clock.started other.clock.started
    · rfl
  have any := congrArg (List.any · fun delay => decide (server.deadline ≤ delay)) delays
  rw [List.any_map, List.any_map] at any
  unfold LateAlike isLate
  rw [same.deadline]
  exact any

theorem bareReply
    (ignores : engine.Ignores Behaviour.outcome server.handler.providers (identified fresh request).head
      (identified another request).head)
    (late : LateAlike engine request fresh another server other) :
    other.bareReply engine (identified another request) = server.bareReply engine (identified fresh request) := by
  obtain ⟨verdict, one, two⟩ :=
    exists_planned server.handler (some (server.readLimit (identified fresh request))) fresh another request
  have ending : (other.handling engine (identified another request)).ending =
      (server.handling engine (identified fresh request)).ending := by
    rw [same.handling fresh]
    exact one.ending_eq two ignores server.clock.started other.clock.started
  unfold LateAlike at late
  unfold Server.bareReply
  rw [late, same.deadline, same.announcesTooMuch fresh, same.accepts fresh, ending]

/-- A request is answered alike by servers with the same settings. -/
theorem answeredAlike (consistent : engine.Consistent Behaviour.outcome) :
    AnsweredAlike engine request fresh another server other (server.serve engine fresh request)
      (other.serve engine another request) := by
  have one := server.served_serve engine fresh request
  have two := other.served_serve engine another request
  have calls := @exists_queries server other engine same fresh another request
  rw [← one.calls_eq, ← two.calls_eq] at calls
  have reply (ignores : engine.Ignores Behaviour.outcome server.handler.providers (identified fresh request).head
      (identified another request).head) (late : LateAlike engine request fresh another server other) :
      ∃ bare : Reply, (server.serve engine fresh request).1 = bare.map (server.finish (identified fresh request)) ∧
        (other.serve engine another request).1 = bare.map (server.finish (identified another request)) := by
    refine ⟨server.bareReply engine (identified fresh request), ?_, ?_⟩
    · rw [one.reply_eq, replyTo_eq_map]
    · rw [two.reply_eq, replyTo_eq_map, same.bareReply fresh another request ignores late, same.finish]
  refine ⟨calls, reply, same.lateAlike fresh another request, ?_⟩
  intro identity
  have head : (identified another request).head = (identified fresh request).head := congrArg Request.head identity
  have equal (late : LateAlike engine request fresh another server other) :
      (other.serve engine another request).1 = (server.serve engine fresh request).1 := by
    obtain ⟨bare, oneReply, twoReply⟩ := reply (consistent.ignores head server.handler.providers) late
    rw [oneReply, twoReply, identity]
  obtain ⟨queries, oneCalls, twoCalls⟩ := calls
  refine ⟨by rw [oneCalls, twoCalls, identity], equal, fun steady => ?_⟩
  exact equal (same.lateAlike fresh another request (steady.ignores head server.handler.providers))

end

end SameSettings

/-- Requests change no settings. -/
theorem sameSettings_serve (server : Server) (engine : Engine) (fresh : Bytes) (request : Request) :
    SameSettings server (server.serve engine fresh request).2.2 := by
  obtain ⟨config, route, handler, -⟩ := (server.served_serve engine fresh request).frame
  exact ⟨config, route, handler⟩

/-- Servers that were built from the same configuration and end with the same handler have the same settings. -/
theorem sameSettings_run {config : Config} {start otherStart : Server} (built : new? config = some start)
    (otherBuilt : new? config = some otherStart) {engine : Engine} {events others : List Event}
    (same : (run engine otherStart others).2.handler = (run engine start events).2.handler) :
    SameSettings (run engine start events).2 (run engine otherStart others).2 := by
  cases built.symm.trans otherBuilt
  exact ⟨by rw [config_run, config_run], by rw [route_run, route_run], same⟩

end Server

/-! ## Histories -/

open GraphQL

/-- Requests do not influence each other under a consistent engine.  Whatever happened to a handler, or to a server
that was built from a configuration, it answers the next request as it would after any other history that leaves the
same options and the same providers behind, and it hands over the same to the engine.  So it answers a request that
is sent twice in a row twice the same. -/
theorem requests_do_not_interfere {engine : Engine} (consistent : engine.Consistent Behaviour.outcome) :
    (∀ (start otherStart : Session) (events others : List Session.Event),
      let session := (start.run engine events).2
      let other := (otherStart.run engine others).2
      other.handler = session.handler → ∀ request,
        Session.AnsweredAlike (session.step engine (.request request)).1 (other.step engine (.request request)).1) ∧
    (∀ (session : Session) (request : Request),
      let once := session.step engine (.request request)
      Session.AnsweredAlike once.1 (once.2.step engine (.request request)).1) ∧
    (∀ config start otherStart, Server.new? config = some start → Server.new? config = some otherStart →
      ∀ events others : List Server.Event,
        let server := (Server.run engine start events).2
        let other := (Server.run engine otherStart others).2
        other.handler = server.handler → ∀ request fresh another,
          Server.AnsweredAlike engine request fresh another server other (server.serve engine fresh request)
            (other.serve engine another request)) ∧
    (∀ (server : Server) (request : Request) (fresh another : Bytes),
      let once := server.serve engine fresh request
      Server.AnsweredAlike engine request fresh another server once.2.2 once
        (once.2.2.serve engine another request)) := by
  refine ⟨?_, ?_, ?_, ?_⟩
  · intro start otherStart events others session other same request
    exact Session.answeredAlike_of_handler consistent same request
  · intro session request
    exact Session.answeredAlike_of_handler consistent (session.handler_step engine (.request request)) request
  · intro config start otherStart built otherBuilt events others server other same request fresh another
    exact (Server.sameSettings_run built otherBuilt same).answeredAlike fresh another request consistent
  · intro server request fresh another
    exact (server.sameSettings_serve engine fresh request).answeredAlike fresh another request consistent

namespace Server

/-- A request for a query that is answered at once. -/
def quickRequest : Request := ⟨⟨"GET", ⟨"/graphql", some "query=quick"⟩, []⟩, []⟩

/-- A slow query is cut off, and so is a batch with such a query. -/
def slowRequests : List Event := [.request slowRequest [], .request slowBatch [], .advance 100]

/-- While the slow query of the batch is still running, another one is answered as by a new server. -/
theorem quick_beside_slow :
    let other := (run slowEngine ofOneSecond slowRequests).2
    let result := other.serve slowEngine [] quickRequest
    other.clock.running.length = 1 ∧ result.1.status? = some 200 ∧
      result.1 = (ofOneSecond.serve slowEngine [] quickRequest).1 ∧
      result.2.1.calls = (ofOneSecond.serve slowEngine [] quickRequest).2.1.calls := by
  intro other result
  have handler : other.handler = ofOneSecond.handler := handler_run slowEngine ofOneSecond slowRequests
  have running : other.clock.running.length = 1 := by
    decide +kernel
  have answered : (ofOneSecond.serve slowEngine [] quickRequest).1.status? = some 200 := by
    decide +kernel
  have consistent : slowEngine.Consistent Behaviour.outcome := Engine.consistent_scripted _ _
  have steady : slowEngine.Consistent Behaviour.delay := Engine.consistent_scripted _ _
  obtain ⟨-, -, histories, -⟩ := requests_do_not_interfere consistent
  have alike : AnsweredAlike slowEngine quickRequest [] [] ofOneSecond other
      (ofOneSecond.serve slowEngine [] quickRequest) result :=
    histories oneSecond ofOneSecond ofOneSecond new?_oneSecond new?_oneSecond [] slowRequests handler quickRequest [] []
  obtain ⟨calls, -, reply⟩ := alike.identical rfl
  refine ⟨running, ?_, reply steady, calls⟩
  rw [reply steady]
  exact answered

end Server

end QueryGateway
