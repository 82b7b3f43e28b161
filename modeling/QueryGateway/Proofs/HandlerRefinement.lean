import QueryGateway.Proofs.BodyLimits
import QueryGateway.Proofs.Panics

/-!
# The layers refine the handler

Around the handler stand layers, which name a request, limit its time and its body, and route it by its path.  If
the engine is prompt and the body keeps to the limit, none of them gets in the way: on the path of the handler a
request is answered as the handler alone would answer it, and what is executed is the same; the layers only add to
the fields of the answer.  On any other path there is nothing.
-/

namespace QueryGateway

open Http

/-- A body that keeps to a limit is read as if there were none. -/
theorem Http.Body.collect_of_fits {limit : Nat} {body : Body} (fits : ¬body.Exceeds limit) :
    collect (some limit) body = collect none body := by
  have arrives := arrives_collect none body
  generalize collect none body = result at arrives
  cases arrives with
  | whole _ =>
      have within := within_of_not_exceeds (List.append_nil _).symm fits
      exact collect_of_arrives (.whole within)
  | tooLarge _ beyond => exact absurd nofun beyond
  | broken _ =>
      have within := within_of_not_exceeds rfl fits
      exact collect_of_arrives (.broken within)

namespace GraphQL

/-! ## Prompt engines -/

/-- An engine that ends every execution before a time has passed, and never panics. -/
structure Engine.Prompt (engine : Engine) (time : Nat) : Prop where
  soon : ∀ ordinal execution, (engine ordinal execution).delay < time
  sound : ∀ ordinal execution message, (engine ordinal execution).outcome ≠ .panic message

theorem Engine.exists_of_mem_start {engine : Engine} {ordinal : Nat} {executions : List Execution} {task : Started}
    (member : task ∈ engine.start ordinal executions) :
    ∃ place, task.behaviour = engine place task.execution := by
  rw [start_eq_mapIdx] at member
  obtain ⟨place, _, same⟩ := List.mem_mapIdx.mp member
  rw [← same]
  exact ⟨ordinal + place, rfl⟩

theorem Engine.prompt_echo {time : Nat} (positive : 0 < time) : Engine.echo.Prompt time :=
  ⟨fun _ _ => positive, fun _ _ _ => nofun⟩

section

variable {engine : Engine} {time : Nat} (prompt : engine.Prompt time)
include prompt

theorem Engine.Prompt.duration_lt (positive : 0 < time) (handler : Handler) (ordinal : Nat) (limit : Option Nat)
    (request : Request) : (handler.handle engine ordinal limit request).duration < time := by
  apply (Handling.duration_lt_iff positive).mpr
  intro task member
  cases decided : handler.plan limit request with
  | error rejection =>
      rw [Handler.handle_of_rejected decided] at member
      cases member
  | ok plan =>
      rw [Handler.handle_of_accepted decided] at member
      obtain ⟨place, same⟩ := Engine.exists_of_mem_start member
      rw [same]
      exact prompt.soon place task.execution

/-- A prompt engine lets every handling end in an answer. -/
theorem Engine.Prompt.exists_answer (handler : Handler) (ordinal : Nat) (limit : Option Nat) (request : Request) :
    ∃ answer, Server.Reply.ofEnding (handler.handle engine ordinal limit request).ending = .response answer := by
  cases ending : (handler.handle engine ordinal limit request).ending with
  | response answer => exact ⟨answer, rfl⟩
  | failure cause => exact ⟨cause.response, rfl⟩
  | panic message =>
      obtain ⟨execution, -, panics⟩ := Handler.ending_eq_panic_iff.mp ending
      exact absurd panics (prompt.sound ordinal execution message)

end

end GraphQL

namespace Server

open GraphQL

/-! ## What the layers add -/

/-- An answer completes another one: its status and its body are the same, and so is every field, but for the
length and the identifier. -/
structure Completes (plain answer : Response) : Prop where
  status : answer.status = plain.status
  body : answer.body = plain.body
  fields : ∀ name, name ≠ "content-length" → name ≠ requestIdName →
    answer.headers.values name = plain.headers.values name

/-- A request is served as a handler alone serves it: the answer completes the one of the handler, and what is
executed, what ends, and how long it takes are the same. -/
structure Refines (bare : Ending × Activity × Clock) (result : Reply × Activity × Server) : Prop where
  reply : ∃ plain answer, Reply.ofEnding bare.1 = .response plain ∧ result.1 = .response answer ∧
    Completes plain answer
  activity : result.2.1 = bare.2.1
  clock : result.2.2.clock = bare.2.2

section

variable {server : Server} {engine : Engine} {request : Request}

theorem completes_finish {plain : Response} (bare : IsBare plain) (notHead : request.head.method ≠ "HEAD")
    (server : Server) : Completes plain (server.finish request plain) where
  status := server.status_finish request plain
  body := body_finish notHead server plain
  fields _ notLength notIdentifier := values_finish_of_ne bare notLength notIdentifier server request

/-- A request that announces nothing announces no body that is too long. -/
theorem not_announcesTooMuch (unannounced : request.head.headers.first? "content-length" = none) (server : Server) :
    server.announcesTooMuch request = false := by
  rw [announcesTooMuch, announcedLength?, unannounced]
  rfl

/-- The limit does not matter to a request that announces nothing and keeps to it. -/
theorem handling_of_fits (unannounced : request.head.headers.first? "content-length" = none)
    (fits : ¬request.body.Exceeds server.config.graphql.bodyLimit.toNat) (engine : Engine) :
    server.handling engine request = server.handler.handle engine server.clock.started none request := by
  have limit : server.readLimit request = server.config.graphql.bodyLimit.toNat := by
    rw [readLimit, announcedLength?, unannounced]
    exact Nat.min_self _
  have same : server.handler.plan (some (server.readLimit request)) request = server.handler.plan none request := by
    rw [limit]
    exact server.handler.plan_congr_body (Body.collect_of_fits fits) request.head
  exact handle_of_plan_eq same engine server.clock.started

/-- A request that gets through to the handler is served as by the handler, if its handling is over in time. -/
theorem Served.refines {result : Reply × Activity × Server} (served : Served server engine request result)
    (notHead : request.head.method ≠ "HEAD") (reached : server.reaches request = true)
    (same : server.handling engine request = server.handler.handle engine server.clock.started none request)
    (prompt : engine.Prompt server.deadline) :
    Refines (server.handler.serve engine server.clock request) result := by
  have positive : 0 < server.deadline := Nat.pos_of_ne_zero (reaches_iff.mp reached).1
  have timely := prompt.duration_lt positive server.handler server.clock.started none request
  obtain ⟨plain, ending⟩ := prompt.exists_answer server.handler server.clock.started none request
  cases served with
  | noTime none => exact absurd reached (not_reaches_of_noTime none)
  | tooMuch time long => exact absurd reached (not_reaches_of_tooMuch long)
  | unknown time short other => exact absurd reached (not_reaches_of_unknown other)
  | cutOff reached late =>
      rw [same] at late
      exact absurd timely (Nat.not_lt.mpr late)
  | inTime reached timely =>
      rw [same]
      refine ⟨⟨plain, server.finish request plain, ending, ?_, ?_⟩, rfl, rfl⟩
      · dsimp only
        rw [ending]
        rfl
      · exact completes_finish (isBare_of_ending ending) notHead server

/-- A request for an unknown path is answered with nothing but a status, and nothing is executed. -/
theorem Served.not_found {result : Reply × Activity × Server} (served : Served server engine request result)
    (notHead : request.head.method ≠ "HEAD") (time : server.deadline ≠ 0)
    (short : server.announcesTooMuch request = false)
    (other : server.route.accepts request.head.uri.path = false) : Refused 404 "" result := by
  have idle : server.startedBy engine request = [] := startedBy_of_not_reaches (not_reaches_of_unknown other)
  have patient : server.patientReply engine request = .response (server.finish request unknownPath) := by
    rw [patientReply, if_neg (Bool.eq_false_iff.mp short), if_neg (Bool.eq_false_iff.mp other)]
    rfl
  exact served.refused_of_idle notHead time idle patient

end

/-! ## Servers on a literal path -/

/-- Whatever a server on a literal path was through, it serves a request on this path as its handler alone serves
the request with its identifier, and finds nothing on any other path: if the engine is prompt, the body keeps to the
limit, no length is announced, and not only the head of the answer is asked for.  Its handler has only followed the
changes. -/
theorem layers_refine_handler {config : Config} {start : Server} (built : new? config = some start)
    (literal : Route.IsLiteral config.graphql.path) (time : config.timeouts.requestSeconds.toNat ≠ 0)
    {engine : Engine} (prompt : engine.Prompt (config.timeouts.requestSeconds.toNat * 1000))
    (events : List Event) :
    let server := (run engine start events).2
    server.handler = events.foldl Event.onHandler (.new config.graphql.options) ∧
      ∀ request fresh, request.head.method ≠ "HEAD" → request.head.headers.first? "content-length" = none →
        ¬request.body.Exceeds config.graphql.bodyLimit.toNat →
        let result := server.serve engine fresh request
        (request.head.uri.path = config.graphql.path →
          Refines (server.handler.serve engine server.clock (identified fresh request)) result) ∧
        (request.head.uri.path ≠ config.graphql.path → Refused 404 "" result) := by
  intro server
  obtain ⟨route, parsed, same⟩ := Option.map_eq_some_iff.mp built
  have configSame : server.config = config := by
    rw [config_run, ← same]
  have routeSame : server.route = route := by
    rw [route_run, ← same]
  have handlerSame : server.handler = events.foldl Event.onHandler (.new config.graphql.options) := by
    rw [handler_run, ← same]
  have deadlineSame : server.deadline = config.timeouts.requestSeconds.toNat * 1000 := by
    rw [deadline, configSame]
  have timeHere : server.deadline ≠ 0 := by
    rw [deadlineSame]
    omega
  refine ⟨handlerSame, ?_⟩
  intro request fresh notHead unannounced fits result
  have served : Served server engine (identified fresh request) result := server.served_serve engine fresh request
  have notHeadHere := ne_of_eq_of_ne (method_identified fresh request) notHead
  have unannouncedHere : (identified fresh request).head.headers.first? "content-length" = none :=
    (first?_identify_of_ne (by decide) fresh request.head).trans unannounced
  have short := not_announcesTooMuch unannouncedHere server
  have known : server.route.accepts (identified fresh request).head.uri.path = true ↔
      request.head.uri.path = config.graphql.path := by
    rw [uri_identified, routeSame]
    exact Route.accepts_iff_of_literal literal parsed request.head.uri.path
  constructor
  · intro here
    have reached := reaches_iff.mpr ⟨timeHere, short, known.mpr here⟩
    have fitsHere : ¬(identified fresh request).body.Exceeds server.config.graphql.bodyLimit.toNat := by
      rw [configSame]
      exact fits
    rw [← deadlineSame] at prompt
    exact served.refines notHeadHere reached (handling_of_fits unannouncedHere fitsHere engine) prompt
  · intro elsewhere
    have other : server.route.accepts (identified fresh request).head.uri.path = false :=
      Bool.eq_false_iff.mpr fun accepted => elsewhere (known.mp accepted)
    exact served.not_found notHeadHere timeHere short other

/-- A request with a method that no handler takes. -/
def deleting (path : String) : Request := ⟨⟨"DELETE", ⟨path, none⟩, []⟩, []⟩

/-- When another configuration was applied, the handler still executes queries and tells through all layers which
methods it takes, on the path of the first configuration and not on the one of the other. -/
theorem handler_behind_layers_after_reload :
    let applied := { Config.standard with graphql := { Config.Endpoint.standard with path := "/other" } }
    let server := (run Engine.echo ofOneSecond [.reconfigure applied]).2
    (server.serve Engine.echo [] slowRequest).2.1.calls.map Execution.query = ["slow"] ∧
      (∃ answer, (server.serve Engine.echo [] (deleting "/graphql")).1 = .response answer ∧ answer.status = 405 ∧
        answer.headers.values "allow" = [Bytes.ofString "GET, POST"]) ∧
      Refused 404 "" (server.serve Engine.echo [] (deleting "/other")) := by
  intro applied server
  have literal : Route.IsLiteral oneSecond.graphql.path := by
    decide
  have fits : ¬Body.Exceeds oneSecond.graphql.bodyLimit.toNat [] := by
    intro exceeds
    cases Body.collect_of_exceeds exceeds
  have prompt := Engine.prompt_echo (by decide : 0 < oneSecond.timeouts.requestSeconds.toNat * 1000)
  obtain ⟨-, refines⟩ := layers_refine_handler new?_oneSecond literal (by decide) prompt [.reconfigure applied]
  obtain ⟨asked, -⟩ := refines slowRequest [] (by decide) rfl fits
  obtain ⟨here, -⟩ := refines (deleting "/graphql") [] (by decide) rfl fits
  obtain ⟨-, elsewhere⟩ := refines (deleting "/other") [] (by decide) rfl fits
  obtain ⟨plain, answer, ending, told, completes⟩ := (here rfl).reply
  have rejected : Reply.ofEnding (server.handler.serve Engine.echo server.clock
      (identified [] (deleting "/graphql"))).1 =
        .response (Failure.rejected (.methodNotAllowed "DELETE")).response := rfl
  have same := Reply.response.inj (rejected.symm.trans ending)
  refine ⟨?_, ⟨answer, told, ?_, ?_⟩, elsewhere (by decide)⟩
  · rw [(asked rfl).activity]
    with_unfolding_all rfl
  · rw [completes.status, ← same]
    rfl
  · rw [completes.fields "allow" (by decide) (by decide), ← same]
    decide

end Server

end QueryGateway
