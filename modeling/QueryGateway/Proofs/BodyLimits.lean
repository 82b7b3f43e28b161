import QueryGateway.Proofs.LayeredAnswers
import QueryGateway.Proofs.Precedence

/-!
# Limits of bodies

How long a body may be, whatever the chunks are in which it arrives.  A request that announces too long a body is
refused by the layer in front of the handler.  Any other one may bring as many octets as it announces, and no more
than the limit: one octet more is refused, unless the body stops before; and a body that keeps to the limit is
answered as if all of it had arrived at once.
-/

namespace QueryGateway

open Http

namespace Http

variable {limit : Nat} {body : Body}

/-! ## Bodies that are too long, and bodies that stop -/

namespace Body

/-- More octets than a limit arrive, before the body stops. -/
def Exceeds (limit : Nat) (body : Body) : Prop :=
  ∃ (parts : List Bytes) (rest : Body), body = parts.map .data ++ rest ∧ limit < parts.flatten.length

/-- The body stops, and a message tells why. -/
def Stops (message : String) (body : Body) : Prop :=
  ∃ (parts : List Bytes) (rest : Body), body = parts.map .data ++ .failure message :: rest

theorem within_of_not_exceeds {parts : List Bytes} {rest : Body} (same : body = parts.map .data ++ rest)
    (fits : ¬body.Exceeds limit) : Within (some limit) parts.flatten.length := by
  intro room here
  have room_eq : limit = room := Option.some.inj here
  rw [← room_eq]
  exact Nat.not_lt.mp fun beyond => fits ⟨parts, rest, same, beyond⟩

/-- A body that exceeds the limit is not read to its end. -/
theorem collect_of_exceeds (exceeds : body.Exceeds limit) : collect (some limit) body = .error .tooLarge := by
  obtain ⟨parts, rest, same, beyond⟩ := exceeds
  rw [same]
  clear same
  induction parts generalizing limit with
  | nil => cases beyond
  | cons part parts ih =>
      rw [List.flatten_cons, List.length_append] at beyond
      rw [List.map_cons, List.cons_append, collect]
      split
      · rfl
      next fits =>
        have others : limit - part.length < parts.flatten.length := by omega
        rw [ih others]
        rfl

theorem collect_of_stops (fits : ¬body.Exceeds limit) {message : String} (stops : body.Stops message) :
    collect (some limit) body = .error (.broken message) := by
  obtain ⟨parts, rest, same⟩ := stops
  have within := within_of_not_exceeds same fits
  rw [same]
  exact collect_of_arrives (.broken within)

theorem octets_map_data (parts : List Bytes) : octets (parts.map .data) = parts.flatten := by
  rw [octets, List.flatMap_map]
  exact List.flatMap_id

/-- A body consists of octets alone, or it stops. -/
theorem exists_parts_or_stops (body : Body) :
    (∃ parts : List Bytes, body = parts.map .data) ∨ ∃ message, body.Stops message := by
  induction body with
  | nil => exact Or.inl ⟨[], rfl⟩
  | cons chunk body ih =>
      cases chunk with
      | failure message => exact Or.inr ⟨message, [], body, rfl⟩
      | data octets =>
          rcases ih with ⟨parts, same⟩ | ⟨message, parts, rest, same⟩
          · exact Or.inl ⟨octets :: parts, by rw [same, List.map_cons]⟩
          · exact Or.inr ⟨message, octets :: parts, rest, by rw [same, List.map_cons, List.cons_append]⟩

/-- A body that keeps to the limit and does not stop is read whole. -/
theorem collect_of_whole (fits : ¬body.Exceeds limit) (whole : ∀ message, ¬body.Stops message) :
    collect (some limit) body = .ok body.octets ∧ body.octets.length ≤ limit := by
  rcases body.exists_parts_or_stops with ⟨parts, same⟩ | ⟨message, stops⟩
  · have alone : body = parts.map .data ++ [] := by rw [same, List.append_nil]
    have within := within_of_not_exceeds alone fits
    rw [same, octets_map_data]
    exact ⟨collect_of_arrives (.whole within), within limit rfl⟩
  · exact absurd stops (whole message)

/-- All octets of a body that is read are read. -/
theorem octets_eq_of_collect {limit : Option Nat} {bytes : Bytes} (read : collect limit body = .ok bytes) :
    body.octets = bytes := by
  have arrives := arrives_collect limit body
  rw [read] at arrives
  cases arrives with
  | whole fits => exact octets_map_data _

theorem collect_whole {octets : Bytes} (fits : octets.length ≤ limit) :
    collect (some limit) (whole octets) = .ok octets := by
  have all := @collect_map_data limit [octets]
  rw [List.flatten_singleton] at all
  exact all fits

end Body

end Http

namespace GraphQL

/-- A request asks for something in its body, of a type that is read. -/
structure NeedsBody (request : Request) : Prop where
  asks : ∃ values, AsksInBody request values
  type : Handler.contentType request.head = MediaType.json ∨
    Handler.contentType request.head = MediaType.graphql

theorem Handler.readBody_of_exceeds {limit : Nat} {body : Body} (exceeds : body.Exceeds limit) :
    readBody (some limit) body = .error .payloadTooLarge := by
  rw [readBody, Body.collect_of_exceeds exceeds]

theorem Handler.readBody_of_stops {limit : Nat} {body : Body} (fits : ¬body.Exceeds limit) {message : String}
    (stops : body.Stops message) : readBody (some limit) body = .error (.bodyUnreadable message) := by
  rw [readBody, Body.collect_of_stops fits stops]

/-- Of a body, and of its limit, only what is read counts. -/
theorem Handler.plan_congr_body {limit limit' : Option Nat} {body other : Body}
    (same : Body.collect limit body = Body.collect limit' other) (handler : Handler) (head : Head) :
    handler.plan limit ⟨head, body⟩ = handler.plan limit' ⟨head, other⟩ := by
  have read : readBody limit body = readBody limit' other := by
    rw [readBody, readBody, same]
  unfold plan planPost
  dsimp only
  rw [read]

theorem NeedsBody.plan_of_unread {request : Request} (needs : NeedsBody request) {handler : Handler}
    {limit : Option Nat} {rejection : Rejection}
    (unread : Handler.readBody limit request.body = .error rejection) :
    handler.plan limit request = .error rejection := by
  obtain ⟨values, asks⟩ := needs.asks
  exact asks.plan_of_unread needs.type unread

/-- What is executed for the sake of a body comes from a body that was read. -/
theorem NeedsBody.exists_read {request : Request} (needs : NeedsBody request) {handler : Handler}
    {limit : Option Nat} {plan : Plan} (planned : handler.plan limit request = .ok plan) :
    ∃ octets, Body.collect limit request.body = .ok octets := by
  cases read : Body.collect limit request.body with
  | ok octets => exact ⟨octets, rfl⟩
  | error fault =>
      have unread : ∃ rejection, Handler.readBody limit request.body = .error rejection := by
        unfold Handler.readBody
        rw [read]
        cases fault with
        | tooLarge => exact ⟨_, rfl⟩
        | broken message => exact ⟨_, rfl⟩
      obtain ⟨rejection, unread⟩ := unread
      rw [needs.plan_of_unread unread] at planned
      cases planned

end GraphQL

namespace Server

open GraphQL

section

variable {server : Server} {engine : Engine} {fresh : Bytes} {request : Request}

/-! ## A request with an identifier -/

/-- A request needs its body whatever identifies it. -/
theorem needsBody_identified (needs : NeedsBody request) (fresh : Bytes) :
    NeedsBody (identified fresh request) := by
  obtain ⟨⟨values, asks⟩, type⟩ := needs
  have method : (identified fresh request).head.method = "POST" :=
    (method_identified fresh request).trans asks.method
  refine ⟨⟨values, method, ?_, ?_⟩, ?_⟩
  · rw [uri_identified]
    exact asks.target
  · rw [uri_identified]
    exact asks.given
  · have same : Handler.contentType (identified fresh request).head = Handler.contentType request.head :=
      contentType_identify fresh request.head
    rw [same]
    exact type

theorem readLimit_identified (server : Server) (fresh : Bytes) (request : Request) :
    server.readLimit (identified fresh request) = server.readLimit request := by
  have announced : announcedLength? (identified fresh request).head.headers =
      announcedLength? request.head.headers := announcedLength?_identify fresh request.head
  rw [readLimit, readLimit, announced]

/-- What is announced must be a number to be too much. -/
theorem announcesTooMuch_iff : server.announcesTooMuch request = true ↔
    ∃ count, announcedLength? request.head.headers = some count ∧
      server.config.graphql.bodyLimit.toNat < count := by
  unfold announcesTooMuch
  cases announcedLength? request.head.headers with
  | none => simp
  | some count => simp

theorem announcesTooMuch_identified (server : Server) (fresh : Bytes) (request : Request) :
    server.announcesTooMuch (identified fresh request) = server.announcesTooMuch request := by
  have announced : announcedLength? (identified fresh request).head.headers =
      announcedLength? request.head.headers := announcedLength?_identify fresh request.head
  rw [announcesTooMuch, announcesTooMuch, announced]

/-- A request that announces no more than the limit gets through to the handler, if its path is known. -/
theorem reaches_identified (time : server.deadline ≠ 0)
    (known : server.route.accepts request.head.uri.path = true)
    (short : server.announcesTooMuch request = false) (fresh : Bytes) :
    server.reaches (identified fresh request) = true := by
  refine reaches_iff.mpr ⟨time, ?_, ?_⟩
  · rw [announcesTooMuch_identified]
    exact short
  · rw [uri_identified]
    exact known

/-! ## Refusals -/

/-- A request is refused with a message, and nothing is executed. -/
structure Refused (status : Nat) (text : String) (result : Reply × Activity × Server) : Prop where
  reply : ∃ headers, result.1 = .response ⟨status, headers, text⟩
  idle : result.2.1.calls = []

/-- A request that starts nothing is refused with the answer that it would be given without a deadline. -/
theorem Served.refused_of_idle {result : Reply × Activity × Server} (served : Served server engine request result)
    (notHead : request.head.method ≠ "HEAD") (time : server.deadline ≠ 0)
    (idle : server.startedBy engine request = []) {answer : Response}
    (patient : server.patientReply engine request = .response (server.finish request answer)) :
    Refused answer.status answer.body result := by
  have inTime : ¬server.isLate engine request = true := by
    rw [isLate, idle]
    exact nofun
  obtain ⟨headers, told⟩ := server.exists_finish notHead answer
  constructor
  · refine ⟨headers, ?_⟩
    rw [served.reply_eq, replyTo_of_inTime time inTime, patient, told]
  · rw [served.calls_eq, idle]
    rfl

/-- A request that the handler rejects is refused. -/
theorem Served.refused {result : Reply × Activity × Server} (served : Served server engine request result)
    (notHead : request.head.method ≠ "HEAD") (reached : server.reaches request = true) {rejection : Rejection}
    (rejected : server.handler.plan (some (server.readLimit request)) request = .error rejection) :
    Refused (Failure.rejected rejection).response.status (Failure.rejected rejection).response.body result := by
  obtain ⟨time, short, known⟩ := reaches_iff.mp reached
  have handling : server.handling engine request = ⟨[], none, .failure (.rejected rejection)⟩ :=
    Handler.handle_of_rejected rejected engine server.clock.started
  have idle : server.startedBy engine request = [] := by
    rw [startedBy_of_reaches reached, handling]
  have ending : (server.handler.serveWithin engine server.clock (some (server.readLimit request)) request).1 =
      .failure (.rejected rejection) := congrArg Handling.ending handling
  refine served.refused_of_idle notHead time idle ?_
  rw [patientReply, if_neg (Bool.eq_false_iff.mp short), if_pos known, ending]
  rfl

theorem NeedsBody.not_head (needs : NeedsBody request) : request.head.method ≠ "HEAD" := by
  obtain ⟨⟨values, asks⟩, -⟩ := needs
  rw [asks.method]
  decide

/-- A request whose body cannot be read up to the limit is refused. -/
theorem refused_of_unread (time : server.deadline ≠ 0)
    (known : server.route.accepts request.head.uri.path = true) (needs : NeedsBody request)
    (short : server.announcesTooMuch request = false) {rejection : Rejection}
    (unread : Handler.readBody (some (server.readLimit request)) request.body = .error rejection)
    (engine : Engine) (fresh : Bytes) :
    Refused (Failure.rejected rejection).response.status (Failure.rejected rejection).response.body
      (server.serve engine fresh request) := by
  have needsHere := needsBody_identified needs fresh
  have rejected : server.handler.plan (some (server.readLimit (identified fresh request)))
      (identified fresh request) = .error rejection := by
    rw [readLimit_identified]
    exact needsHere.plan_of_unread unread
  have served := server.served_serve engine fresh request
  exact served.refused (NeedsBody.not_head needsHere) (reaches_identified time known short fresh) rejected

/-- A request that announces too long a body is refused in front of the handler. -/
theorem refused_of_tooMuch (time : server.deadline ≠ 0) (notHead : request.head.method ≠ "HEAD")
    (long : server.announcesTooMuch request = true) (engine : Engine) (fresh : Bytes) :
    Refused 413 "length limit exceeded" (server.serve engine fresh request) ∧
      (server.serve engine fresh request).2.2.metrics = server.metrics := by
  have longHere : server.announcesTooMuch (identified fresh request) = true := by
    rw [announcesTooMuch_identified]
    exact long
  have notHeadHere := ne_of_eq_of_ne (method_identified fresh request) notHead
  obtain ⟨headers, told⟩ := server.exists_finish notHeadHere lengthExceeded
  have served := server.served_serve engine fresh request
  generalize server.serve engine fresh request = result at served
  cases served with
  | noTime none => exact absurd none time
  | tooMuch => exact ⟨⟨⟨headers, congrArg Reply.response told⟩, rfl⟩, rfl⟩
  | unknown _ short => exact absurd (longHere.symm.trans short) nofun
  | inTime reached => exact absurd reached (not_reaches_of_tooMuch longHere)
  | cutOff reached => exact absurd reached (not_reaches_of_tooMuch longHere)

/-! ## Bodies that are read -/

/-- Of a body, only what is read of it up to the limit counts. -/
theorem serve_congr_body {head : Head} {body other : Body}
    (same : Body.collect (some (server.readLimit ⟨head, body⟩)) body =
      Body.collect (some (server.readLimit ⟨head, body⟩)) other) (engine : Engine) (fresh : Bytes) :
    server.serve engine fresh ⟨head, body⟩ = server.serve engine fresh ⟨head, other⟩ := by
  have limit : server.readLimit ⟨head, body⟩ =
      min server.config.graphql.bodyLimit.toNat
        ((announcedLength? (identify fresh head).headers).getD server.config.graphql.bodyLimit.toNat) := by
    rw [announcedLength?_identify]
    rfl
  rw [limit] at same
  have handled := handle_of_plan_eq (server.handler.plan_congr_body same (identify fresh head)) engine
    server.clock.started
  unfold serve dispatch handleInTime
  dsimp only
  rw [handled]

/-- Nothing is executed for the sake of a body that is longer than the limit. -/
theorem calls_of_long (needs : NeedsBody request)
    (long : server.config.graphql.bodyLimit.toNat < request.body.octets.length) (engine : Engine)
    (fresh : Bytes) : (server.serve engine fresh request).2.1.calls = [] := by
  have served := server.served_serve engine fresh request
  rw [served.calls_eq, startedBy]
  split
  · have needsHere := needsBody_identified needs fresh
    cases planned : server.handler.plan (some (server.readLimit (identified fresh request)))
        (identified fresh request) with
    | error rejection =>
        rw [handling, Handler.handle_of_rejected planned]
        rfl
    | ok plan =>
        obtain ⟨octets, read⟩ := needsHere.exists_read planned
        have all : request.body.octets = octets := Body.octets_eq_of_collect read
        have within := Body.length_of_collect read
        have bounded : server.readLimit (identified fresh request) ≤ server.config.graphql.bodyLimit.toNat :=
          Nat.min_le_left _ _
        rw [all] at long
        omega
  · rfl

theorem calls_step_of_long {event : Event} (here : event = .request request fresh) (needs : NeedsBody request)
    (long : server.config.graphql.bodyLimit.toNat < request.body.octets.length) :
    (step engine server event).1.activity.calls = [] := by
  rw [here]
  exact calls_of_long needs long engine fresh

end

/-- The limit of bodies is exact, however a body is cut into chunks.  A request on the path of the handler that
needs its body is refused by a layer if it announces more than the limit.  Otherwise as much of its body may arrive
as it announces, or as the limit allows if it announces nothing: if more arrives before the body stops, the request
is refused as too long; if the body stops before, it is refused as unreadable; and if neither happens, everything is
as if the body had arrived at once.  In no run is anything executed for the sake of a body over the limit. -/
theorem body_limit_exact {server : Server} (time : server.deadline ≠ 0) (engine : Engine) :
    let limit := server.config.graphql.bodyLimit.toNat
    (∀ (fresh : Bytes) (request : Request), server.route.accepts request.head.uri.path = true →
      NeedsBody request →
      let announced := announcedLength? request.head.headers
      let allowed := min limit (announced.getD limit)
      let result := server.serve engine fresh request
      (∀ count, announced = some count → limit < count →
        Refused 413 "length limit exceeded" result ∧ result.2.2.metrics = server.metrics) ∧
      ((∀ count, announced = some count → count ≤ limit) →
        (request.body.Exceeds allowed → Refused 413 "Request body too large" result) ∧
        (¬request.body.Exceeds allowed →
          (∀ message, request.body.Stops message →
            Refused 400 ("Failed to read request body: " ++ message) result) ∧
          ((∀ message, ¬request.body.Stops message) →
            result = server.serve engine fresh ⟨request.head, .whole request.body.octets⟩)))) ∧
    ∀ events, ∀ moment ∈ moments engine server events, ∀ request fresh,
      moment.event = .request request fresh → NeedsBody request → limit < request.body.octets.length →
        moment.report.activity.calls = [] := by
  intro limit
  constructor
  · intro fresh request known needs announced allowed result
    constructor
    · intro count given beyond
      exact refused_of_tooMuch time (NeedsBody.not_head needs) (announcesTooMuch_iff.mpr ⟨count, given, beyond⟩)
        engine fresh
    · intro within
      have short : server.announcesTooMuch request = false := by
        apply Bool.eq_false_iff.mpr
        intro long
        obtain ⟨count, given, beyond⟩ := announcesTooMuch_iff.mp long
        exact Nat.not_lt.mpr (within count given) beyond
      have refused {rejection : Rejection}
          (unread : Handler.readBody (some allowed) request.body = .error rejection) :=
        refused_of_unread time known needs short unread engine fresh
      refine ⟨fun exceeds => ?_, fun fits => ⟨fun message stops => ?_, fun whole => ?_⟩⟩
      · exact refused (Handler.readBody_of_exceeds exceeds)
      · exact refused (Handler.readBody_of_stops fits stops)
      · obtain ⟨read, bounded⟩ := Body.collect_of_whole fits whole
        have same := read.trans (Body.collect_whole bounded).symm
        exact serve_congr_body same engine fresh
  · intro events
    have next (state : Server) (event : Event) (kept : state.config = server.config) :
        (step engine state event).2.config = server.config ∧
          ∀ request fresh, (Moment.of engine state event).event = .request request fresh →
            NeedsBody request → limit < request.body.octets.length →
              (Moment.of engine state event).report.activity.calls = [] := by
      refine ⟨(config_step engine state event).trans kept, ?_⟩
      intro request fresh here needs long
      have beyond : state.config.graphql.bodyLimit.toNat < request.body.octets.length := by
        rw [kept]
        exact long
      exact calls_step_of_long here needs beyond
    exact @forall_moments engine (fun state => state.config = server.config) _ next server rfl events

/-- A request that announces five octets of a query, and brings some octets in two chunks. -/
def announcesFive (first second : String) : Request :=
  ⟨⟨"POST", ⟨"/graphql", none⟩,
      [("content-type", Bytes.ofString MediaType.graphql), ("content-length", Bytes.ofString "5")]⟩,
    [.data (Bytes.ofString first), .data (Bytes.ofString second)]⟩

theorem needsBody_announcesFive (first second : String) : NeedsBody (announcesFive first second) := by
  have type : Handler.contentType (announcesFive first second).head = MediaType.graphql := by
    with_unfolding_all rfl
  exact ⟨⟨none, rfl, rfl, .absent⟩, Or.inr type⟩

theorem announced_five (first second : String) :
    announcedLength? (announcesFive first second).head.headers = some 5 := by
  with_unfolding_all rfl

/-- Far below the limit of the server, one octet more than announced is refused, and as many as announced are
answered as if they had arrived at once. -/
theorem sixth_octet_refused :
    Refused 413 "Request body too large" (ofOneSecond.serve slowEngine [] (announcesFive "quer" "y!")) ∧
      ofOneSecond.serve slowEngine [] (announcesFive "quer" "y") =
        ofOneSecond.serve slowEngine [] ⟨(announcesFive "quer" "y").head, .whole (Bytes.ofString "query")⟩ := by
  have limits := (@body_limit_exact ofOneSecond (by decide) slowEngine).1 []
  have within (first second : String) : ∀ count,
      announcedLength? (announcesFive first second).head.headers = some count →
        count ≤ ofOneSecond.config.graphql.bodyLimit.toNat := by
    intro count given
    rw [announced_five] at given
    cases given
    decide
  have one := (limits (announcesFive "quer" "y!") rfl (needsBody_announcesFive "quer" "y!")).2 (within _ _)
  have other := (limits (announcesFive "quer" "y") rfl (needsBody_announcesFive "quer" "y")).2 (within _ _)
  rw [announced_five] at one other
  have read : Body.collect (some 5) (announcesFive "quer" "y").body = .ok (Bytes.ofString "query") := by
    with_unfolding_all rfl
  have fits : ¬(announcesFive "quer" "y").body.Exceeds 5 := by
    intro exceeds
    rw [Body.collect_of_exceeds exceeds] at read
    cases read
  have whole : ∀ message, ¬(announcesFive "quer" "y").body.Stops message := by
    intro message stops
    rw [Body.collect_of_stops fits stops] at read
    cases read
  constructor
  · exact one.1 ⟨[Bytes.ofString "quer", Bytes.ofString "y!"], [], rfl, by decide +kernel⟩
  · have same := (other.2 fits).2 whole
    rw [Body.octets_eq_of_collect read] at same
    exact same

end Server

end QueryGateway
