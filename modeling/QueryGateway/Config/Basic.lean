import QueryGateway.GraphQL.Envelope
import QueryGateway.GraphQL.Options

/-!
# Configurations

What an operator configures.  Every section and every field may be left out; a configuration equals the
standard one in what is left out.
-/

namespace QueryGateway

open Shape GraphQL

namespace Config

/-- Where connections are accepted. -/
structure Listener where
  bindAddress : String
  deriving DecidableEq, Repr

/-- The endpoint for queries. -/
structure Endpoint where
  path : String
  batching : Bool
  /-- The most octets of a body. -/
  bodyLimit : UInt64
  deriving DecidableEq, Repr

/-- How long requests may take. -/
structure Timeouts where
  requestSeconds : UInt64
  deriving DecidableEq, Repr

/-- What is told about the running program. -/
structure Observability where
  logLevel : String
  metricsEnabled : Bool
  metricsAddress : String
  deriving DecidableEq, Repr

/-- The standard place where connections are accepted. -/
def Listener.standard : Listener := ⟨"0.0.0.0:8080"⟩

/-- The standard endpoint. -/
def Endpoint.standard : Endpoint := ⟨"/graphql", false, 2 * 1024 * 1024⟩

/-- The standard timeouts. -/
def Timeouts.standard : Timeouts := ⟨30⟩

/-- The standard observability. -/
def Observability.standard : Observability := ⟨"info", false, "0.0.0.0:9090"⟩

/-- The options that an endpoint gives its handler. -/
def Endpoint.options (endpoint : Endpoint) : Options := ⟨endpoint.batching⟩

end Config

/-- What an operator configures. -/
structure Config where
  listener : Config.Listener
  graphql : Config.Endpoint
  timeouts : Config.Timeouts
  observability : Config.Observability
  deriving DecidableEq, Repr

namespace Config

/-- The standard configuration. -/
def standard : Config := ⟨.standard, .standard, .standard, .standard⟩

/-! ## Shapes -/

section

variable {F : Type → Type} [Format F]

/-- The shape of the listener section. -/
def Listener.shape : F Listener :=
  Format.record
    ⟨"ListenerConfig", .standard,
     [.mayGive "bind_address" Format.text fun bindAddress listener => { listener with bindAddress }]⟩

/-- The shape of the endpoint section. -/
def Endpoint.shape : F Endpoint :=
  Format.record
    ⟨"GraphQLConfig", .standard,
     [.mayGive "path" Format.text fun path endpoint => { endpoint with path },
      .mayGive "request_batching_enabled" Format.flag fun batching endpoint => { endpoint with batching },
      .mayGive "max_body_size" (Format.word64 "usize") fun bodyLimit endpoint =>
        { endpoint with bodyLimit }]⟩

/-- The shape of the timeout section. -/
def Timeouts.shape : F Timeouts :=
  Format.record
    ⟨"TimeoutConfig", .standard,
     [.mayGive "request_secs" (Format.word64 "u64") fun requestSeconds timeouts =>
        { timeouts with requestSeconds }]⟩

/-- The shape of the observability section. -/
def Observability.shape : F Observability :=
  Format.record
    ⟨"ObservabilityConfig", .standard,
     [.mayGive "log_level" Format.text fun logLevel observability => { observability with logLevel },
      .mayGive "metrics_enabled" Format.flag fun metricsEnabled observability =>
        { observability with metricsEnabled },
      .mayGive "metrics_address" Format.text fun metricsAddress observability =>
        { observability with metricsAddress }]⟩

/-- The shape of a configuration. -/
def shape : F Config :=
  Format.record
    ⟨"AdapterConfig", standard,
     [.mayGive "listener" Listener.shape fun listener config => { config with listener },
      .mayGive "graphql" Endpoint.shape fun graphql config => { config with graphql },
      .mayGive "timeouts" Timeouts.shape fun timeouts config => { config with timeouts },
      .mayGive "observability" Observability.shape fun observability config =>
        { config with observability }]⟩

end

/-! ## JSON -/

/-- The JSON value of a configuration, sections and fields in the order of their shapes. -/
def toJson (config : Config) : Json :=
  .object
    [("listener", .object [("bind_address", .string config.listener.bindAddress)]),
     ("graphql", .object
        [("path", .string config.graphql.path),
         ("request_batching_enabled", .bool config.graphql.batching),
         ("max_body_size", wordJson config.graphql.bodyLimit)]),
     ("timeouts", .object [("request_secs", wordJson config.timeouts.requestSeconds)]),
     ("observability", .object
        [("log_level", .string config.observability.logLevel),
         ("metrics_enabled", .bool config.observability.metricsEnabled),
         ("metrics_address", .string config.observability.metricsAddress)])]

end Config

end QueryGateway
