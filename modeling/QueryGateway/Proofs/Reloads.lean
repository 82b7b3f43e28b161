import QueryGateway.Proofs.BodyLimits
import QueryGateway.Proofs.InstalledProviders

/-!
# Configurations that are applied to a running server

A server can be given another configuration while it runs.  Only the switch for batches follows it: from then on
requests are served as by a server that was built from the first configuration, with this switch of the last one.
The path, the limits, and the providers of the handler stay as they are, whatever the other configuration says.
-/

namespace QueryGateway

open Http

/-- A configuration with another switch for batches. -/
def Config.withBatching (config : Config) (batching : Bool) : Config :=
  { config with graphql := { config.graphql with batching } }

/-- An engine after it has executed a number of queries. -/
def GraphQL.Engine.after (engine : Engine) (count : Nat) : Engine := fun ordinal => engine (count + ordinal)

namespace Server

open GraphQL

/-- A server with other providers in its handler. -/
def install (server : Server) (providers : Providers) : Server :=
  { server with handler := { server.handler with providers } }

/-! ## Servers that mirror each other -/

/-- Two servers, each with its engine, decide alike about requests: of their configurations only the limits count. -/
structure Mirrors (server : Server) (engine : Engine) (other : Server) (otherEngine : Engine) : Prop where
  route : other.route = server.route
  handler : other.handler = server.handler
  bodyLimit : other.config.graphql.bodyLimit = server.config.graphql.bodyLimit
  timeouts : other.config.timeouts = server.config.timeouts
  goes : ∀ place execution,
    otherEngine (other.clock.started + place) execution = engine (server.clock.started + place) execution

/-- Two requests are served alike: the clients are told the same after the same time, and the same is executed. -/
structure ServedAlike (server other : Server) (result otherResult : Reply × Activity × Server) : Prop where
  reply : otherResult.1 = result.1
  calls : otherResult.2.1.calls = result.2.1.calls
  time : ∃ elapsed, otherResult.2.2.clock.now = other.clock.now + elapsed ∧
    result.2.2.clock.now = server.clock.now + elapsed

theorem ServedAlike.refused {server other : Server} {result otherResult : Reply × Activity × Server}
    (alike : ServedAlike server other result otherResult) {status : Nat} {text : String}
    (refused : Refused status text otherResult) : Refused status text result := by
  obtain ⟨⟨headers, told⟩, idle⟩ := refused
  exact ⟨⟨headers, alike.reply.symm.trans told⟩, alike.calls.symm.trans idle⟩

/-- How long it takes to serve a request. -/
def elapsed (server : Server) (engine : Engine) (request : Request) : Nat :=
  if server.reaches request = true then min (server.handling engine request).duration server.deadline else 0

theorem Served.now_eq_elapsed {server : Server} {engine : Engine} {request : Request}
    {result : Reply × Activity × Server} (served : Served server engine request result) :
    result.2.2.clock.now = server.clock.now + server.elapsed engine request := by
  unfold elapsed
  cases served with
  | noTime none =>
      rw [if_neg (not_reaches_of_noTime none)]
      rfl
  | tooMuch time long =>
      rw [if_neg (not_reaches_of_tooMuch long)]
      rfl
  | unknown time short other =>
      rw [if_neg (not_reaches_of_unknown other)]
      rfl
  | inTime reached timely =>
      rw [if_pos reached, Nat.min_eq_left (Nat.le_of_lt timely)]
      rfl
  | cutOff reached late =>
      rw [if_pos reached, Nat.min_eq_right late]
      rfl

namespace Mirrors

variable {server other : Server} {engine otherEngine : Engine}

section

variable (mirrors : Mirrors server engine other otherEngine) (request : Request)
include mirrors

theorem deadline : other.deadline = server.deadline := by
  rw [Server.deadline, Server.deadline, mirrors.timeouts]

theorem announcesTooMuch : other.announcesTooMuch request = server.announcesTooMuch request := by
  rw [Server.announcesTooMuch, Server.announcesTooMuch, mirrors.bodyLimit]

theorem reaches : other.reaches request = server.reaches request := by
  rw [Server.reaches, Server.reaches, mirrors.deadline, mirrors.announcesTooMuch, mirrors.route]

theorem finish : other.finish request = server.finish request := by
  funext answer
  rw [Server.finish, Server.finish, mirrors.route]

/-- The executions of a request go alike, for the engines go on alike. -/
theorem start (executions : List Execution) :
    otherEngine.start other.clock.started executions = engine.start server.clock.started executions := by
  rw [Engine.start_eq_mapIdx, Engine.start_eq_mapIdx]
  simp only [mirrors.goes]

theorem handling : other.handling otherEngine request = server.handling engine request := by
  have limit : other.readLimit request = server.readLimit request := by
    rw [readLimit, readLimit, mirrors.bodyLimit]
  rw [Server.handling, Server.handling, limit, mirrors.handler]
  unfold Handler.handle
  simp only [mirrors.start]

theorem startedBy : other.startedBy otherEngine request = server.startedBy engine request := by
  rw [Server.startedBy, Server.startedBy, mirrors.reaches, mirrors.handling]

theorem isLate : other.isLate otherEngine request = server.isLate engine request := by
  rw [Server.isLate, Server.isLate, mirrors.startedBy, mirrors.deadline]

theorem patientReply : other.patientReply otherEngine request = server.patientReply engine request := by
  have ending : (other.handler.serveWithin otherEngine other.clock (some (other.readLimit request)) request).1 =
      (server.handler.serveWithin engine server.clock (some (server.readLimit request)) request).1 :=
    congrArg Handling.ending (mirrors.handling request)
  rw [Server.patientReply, Server.patientReply, mirrors.finish, mirrors.announcesTooMuch, mirrors.route, ending]

theorem replyTo : other.replyTo otherEngine request = server.replyTo engine request := by
  rw [Server.replyTo, Server.replyTo, mirrors.deadline, mirrors.isLate, mirrors.finish, mirrors.patientReply]

theorem elapsed : other.elapsed otherEngine request = server.elapsed engine request := by
  rw [Server.elapsed, Server.elapsed, mirrors.reaches, mirrors.handling, mirrors.deadline]

end

/-- Servers that mirror each other serve every request alike. -/
theorem serve (mirrors : Mirrors server engine other otherEngine) (fresh : Bytes) (request : Request) :
    ServedAlike server other (server.serve engine fresh request) (other.serve otherEngine fresh request) := by
  have one := server.served_serve engine fresh request
  have two := other.served_serve otherEngine fresh request
  constructor
  · rw [two.reply_eq, one.reply_eq, mirrors.replyTo]
  · rw [two.calls_eq, one.calls_eq, mirrors.startedBy]
  · refine ⟨server.elapsed engine (identified fresh request), ?_, one.now_eq_elapsed⟩
    rw [two.now_eq_elapsed, mirrors.elapsed]

end Mirrors

/-! ## Runs -/

/-- The configuration that an event applies. -/
def Event.applied? : Event → Option Config
  | .reconfigure config => some config
  | _ => none

/-- The last configuration that events apply, or else the one before them. -/
def lastApplied (config : Config) (events : List Event) : Config :=
  (events.filterMap Event.applied?).getLast?.getD config

theorem lastApplied_cons (config : Config) (event : Event) (events : List Event) :
    lastApplied config (event :: events) = lastApplied (event.applied?.getD config) events :=
  lastWritten_cons config event events

/-- A handler follows the last configuration in its options, and keeps its providers. -/
theorem foldl_onHandler {events : List Event} (unchanged : ∀ change, Event.change change ∉ events)
    (config : Config) (providers : Providers) :
    events.foldl Event.onHandler ⟨config.graphql.options, providers⟩ =
      ⟨(lastApplied config events).graphql.options, providers⟩ := by
  induction events generalizing config with
  | nil => rfl
  | cons event events ih =>
      have others : ∀ change, Event.change change ∉ events :=
        fun change member => unchanged change (List.mem_cons_of_mem event member)
      rw [List.foldl_cons, lastApplied_cons]
      cases event with
      | change made => exact absurd List.mem_cons_self (unchanged made)
      | reconfigure applied => exact ih others applied
      | request | advance => exact ih others config

/-- Whatever configurations are applied to a server between requests, it keeps its own configuration and the
providers that were installed, and it serves every request as a new server would that was built from its own
configuration with the switch for batches of the last applied one. -/
theorem reload_changes_batching_only {config : Config} {built : Server} (new : new? config = some built)
    (providers : Providers) (engine : Engine) {events : List Event}
    (unchanged : ∀ change, Event.change change ∉ events) :
    let server := (run engine (built.install providers) events).2
    server.config = config ∧ server.handler.providers = providers ∧
      ∃ rebuilt, new? (config.withBatching (lastApplied config events).graphql.batching) = some rebuilt ∧
        ∀ request fresh, ServedAlike server (rebuilt.install providers) (server.serve engine fresh request)
          ((rebuilt.install providers).serve (engine.after server.clock.started) fresh request) := by
  intro server
  obtain ⟨route, parsed, same⟩ := Option.map_eq_some_iff.mp new
  have configSame : server.config = config := by
    rw [config_run, ← same]
    rfl
  have routeSame : server.route = route := by
    rw [route_run, ← same]
    rfl
  have handlerSame : server.handler = ⟨(lastApplied config events).graphql.options, providers⟩ := by
    rw [handler_run, ← same]
    exact foldl_onHandler unchanged config providers
  refine ⟨configSame, congrArg Handler.providers handlerSame, _, Option.map_eq_some_iff.mpr ⟨route, parsed, rfl⟩, ?_⟩
  intro request fresh
  refine Mirrors.serve ⟨routeSame.symm, handlerSame.symm, ?_, ?_, ?_⟩ fresh request
  · rw [configSame]
    rfl
  · rw [configSame]
    rfl
  · intro place execution
    -- a new server has started nothing yet
    show engine (server.clock.started + (0 + place)) execution = engine (server.clock.started + place) execution
    rw [Nat.zero_add]

/-- A configuration with another path, no batches, and no room and no time for requests. -/
def elsewhere : Config := ⟨.standard, ⟨"/other", false, 0⟩, ⟨0⟩, .standard⟩

/-- The server of `ofOneSecond` without batches. -/
def withoutBatches : Server :=
  ⟨oneSecond.withBatching false, ofOneSecond.route, .new ⟨false⟩, .empty, .zero⟩

theorem new?_withoutBatches : new? (oneSecond.withBatching false) = some withoutBatches := by
  with_unfolding_all rfl

theorem refused_withoutBatches (engine : Engine) :
    Refused 400 (Failure.rejected .batchingDisabled).response.body (withoutBatches.serve engine [] slowBatch) := by
  have notHead : (identified [] slowBatch).head.method ≠ "HEAD" :=
    ne_of_eq_of_ne (method_identified [] slowBatch) (by decide)
  have reached : withoutBatches.reaches (identified [] slowBatch) = true := by
    decide +kernel
  have planned : withoutBatches.handler.plan (some (withoutBatches.readLimit (identified [] slowBatch)))
      (identified [] slowBatch) = .error .batchingDisabled := by
    with_unfolding_all rfl
  have served := withoutBatches.served_serve engine [] slowBatch
  exact served.refused notHead reached planned

/-- After the slow query was cut off and the other configuration was applied, batches are refused, on the path and
within the limits of the first configuration. -/
theorem batch_refused_after_reload :
    let server := (run slowEngine (ofOneSecond.install .standard)
      [.request slowRequest [], .reconfigure elsewhere]).2
    server.config = oneSecond ∧
      Refused 400 (Failure.rejected .batchingDisabled).response.body (server.serve slowEngine [] slowBatch) := by
  have unchanged : ∀ change, Event.change change ∉ [.request slowRequest [], .reconfigure elsewhere] := by
    simp
  obtain ⟨config, -, rebuilt, new, alike⟩ :=
    reload_changes_batching_only new?_oneSecond .standard slowEngine unchanged
  have same : withoutBatches = rebuilt := Option.some.inj (new?_withoutBatches.symm.trans new)
  have installed : withoutBatches.install .standard = withoutBatches := rfl
  rw [← same, installed] at alike
  exact ⟨config, (alike slowBatch []).refused (refused_withoutBatches _)⟩

end Server

end QueryGateway
