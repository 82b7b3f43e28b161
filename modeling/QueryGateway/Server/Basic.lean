import QueryGateway.Config.Basic
import QueryGateway.GraphQL.Clock
import QueryGateway.Server.Metrics
import QueryGateway.Server.Route

/-!
# The server

A server passes a request through layers, from the outside in: it is given an identifier, it must be answered
before a deadline, its body must keep within a limit, its answer is recorded, and its path is routed to the
handler.  An answer from a route is completed with the length of its body, and every answer carries the
identifier.
-/

namespace QueryGateway

open Http GraphQL

namespace Server

/-! ## Body limits -/

/-- How many values an unsigned 64-bit word has. -/
def wordCount : Nat := 18446744073709551616

/-- A number of an unsigned 64-bit word in decimal; a plus sign may precede it. -/
def wordOfOctets? (bs : Bytes) : Option Nat :=
  let digits :=
    match bs with
    | 0x2B :: rest => rest
    | _ => bs
  if !digits.isEmpty && digits.all Json.isDigitOctet then
    let n := digits.foldl (fun n b => n * 10 + Json.digitValue b) 0
    if n < wordCount then some n else none
  else none

/-- The length of the body that a request announces. -/
def announcedLength? (headers : Headers) : Option Nat :=
  (headers.first? "content-length").bind wordOfOctets?

/-- The answer to a body that is too long. -/
def lengthExceeded : Response := .message 413 "length limit exceeded"

/-- The answer to a request that takes too long. -/
def timedOut : Response := .empty 408

/-- The answer to a request for an unknown path. -/
def unknownPath : Response := .empty 404

/-! ## Identifiers -/

/-- The head of a request with an identifier: its own, or a fresh one. -/
def identify (fresh : Bytes) (head : Head) : Head :=
  match head.headers.first? requestIdName with
  | some _ => head
  | none => { head with headers := head.headers ++ [(requestIdName, fresh)] }

/-- The first identifier in the head of a request. -/
def identifier (head : Head) : Bytes := (head.headers.first? requestIdName).getD []

/-- A response that carries an identifier, unless it carries one already. -/
def carry (id : Bytes) (response : Response) : Response :=
  match response.headers.first? requestIdName with
  | some _ => response
  | none => { response with headers := response.headers ++ [(requestIdName, id)] }

/-! ## Completion -/

/-- A response with the length of its body. -/
def withLength (response : Response) : Response :=
  match response.headers.first? "content-length" with
  | some _ => response
  | none =>
    { response with
      headers := response.headers ++ [("content-length", Bytes.ofString (toString response.length))] }

/-- The response of a route to a method: its length is told, and a request for the head only has no body. -/
def complete (method : String) (response : Response) : Response :=
  if method = "HEAD" then { withLength response with body := "" } else withLength response

end Server

/-! ## State -/

/-- A server while it runs. -/
structure Server where
  /-- The configuration that the server was built from. -/
  config : Config
  route : Server.Route
  handler : GraphQL.Handler
  metrics : Server.Metrics
  clock : GraphQL.Clock

namespace Server

/-- A new server, unless its path is no pattern of paths. -/
def new? (config : Config) : Option Server :=
  (Route.parse? config.graphql.path).map fun route =>
    ⟨config, route, .new config.graphql.options, .empty, .zero⟩

/-- The milliseconds within which a request must be answered. -/
def deadline (server : Server) : Nat := server.config.timeouts.requestSeconds.toNat * 1000

/-- What a client is told in the end: a response, or nothing because the engine panicked. -/
inductive Reply where
  | response (response : Response)
  | panic (message : String)
  deriving DecidableEq, Repr

/-- The reply of an ending. -/
def Reply.ofEnding : Ending → Reply
  | .response answer => .response answer
  | .failure cause => .response cause.response
  | .panic message => .panic message

/-- A reply with its response changed. -/
def Reply.map (f : Response → Response) : Reply → Reply
  | .response answer => .response (f answer)
  | .panic message => .panic message

/-- What is told about a step. -/
structure Report where
  reply : Option Reply
  activity : Activity

/-! ## Layers -/

/-- The metrics after a handling that was or was not answered in time. -/
def record (metrics : Metrics) (method : String) (batchSize : Option Nat) (reply : Option Reply) : Metrics :=
  let sized :=
    match batchSize with
    | some size => metrics.recordBatch size
    | none => metrics
  match reply with
  | some (.response answer) => sized.recordRequest method answer.status
  | _ => sized

/-- Handles a request on the path of the handler under a body limit: it is cut off at the deadline, and then
only the executions of a batch go on. -/
def handleInTime (server : Server) (engine : Engine) (limit : Nat) (request : Request) :
    Reply × Activity × Server :=
  let handling := server.handler.handle engine server.clock.started (some limit) request
  let method := request.head.method
  if handling.duration < server.deadline then
    let reply := Reply.ofEnding handling.ending
    let (activity, clock) := server.clock.await handling
    (reply, activity,
      { server with clock, metrics := record server.metrics method handling.batchSize (some reply) })
  else
    let calls := handling.started.map Started.execution
    let lasting := if handling.batchSize.isSome then handling.started else []
    let (activity, clock) :=
      (server.clock.start calls.length lasting).pass calls (server.clock.now + server.deadline)
    (.response timedOut, activity,
      { server with clock, metrics := record server.metrics method handling.batchSize none })

/-- Passes a request with an identifier through the layers inside. -/
def dispatch (server : Server) (engine : Engine) (request : Request) : Reply × Activity × Server :=
  let bodyLimit := server.config.graphql.bodyLimit.toNat
  let announced := announcedLength? request.head.headers
  let known := server.route.accepts request.head.uri.path
  let method := request.head.method
  let finish (answer : Response) : Response := if known then complete method answer else answer
  let still (answer : Response) (server : Server) : Reply × Activity × Server :=
    let (activity, clock) := server.clock.pass [] server.clock.now
    (.response (finish answer), activity, { server with clock })
  if server.deadline = 0 then still timedOut server
  else if bodyLimit < announced.getD 0 then still lengthExceeded server
  else if known then
    let (reply, activity, server) :=
      server.handleInTime engine (min bodyLimit (announced.getD bodyLimit)) request
    (reply.map finish, activity, server)
  else
    still unknownPath
      { server with metrics := server.metrics.recordRequest method unknownPath.status }

/-! ## Steps -/

/-- What happens to a server. -/
inductive Event where
  /-- A request arrives; the identifier is for a request that brings none. -/
  | request (request : Request) (fresh : Bytes)
  | change (change : HandlerChange)
  /-- Another configuration is applied. -/
  | reconfigure (config : Config)
  | advance (milliseconds : Nat)

/-- Applies another configuration: only the options of the handler follow it. -/
def reconfigure (server : Server) (config : Config) : Server :=
  { server with handler := server.handler.change (.options config.graphql.options) }

/-- Answers a request. -/
def serve (server : Server) (engine : Engine) (fresh : Bytes) (request : Request) :
    Reply × Activity × Server :=
  let head := identify fresh request.head
  let (reply, activity, server) := server.dispatch engine { request with head }
  (reply.map (carry (identifier head)), activity, server)

/-- What is told when nothing was started and nothing ended. -/
def quiet : Report := ⟨none, ⟨[], []⟩⟩

/-- One step. -/
def step (engine : Engine) (server : Server) : Event → Report × Server
  | .request request fresh =>
    let (reply, activity, server) := server.serve engine fresh request
    (⟨some reply, activity⟩, server)
  | .change change => (quiet, { server with handler := server.handler.change change })
  | .reconfigure config => (quiet, server.reconfigure config)
  | .advance milliseconds =>
    let (activity, clock) := server.clock.pass [] (server.clock.now + milliseconds)
    (⟨none, activity⟩, { server with clock })

/-- A sequence of steps. -/
def run (engine : Engine) (server : Server) : List Event → List Report × Server
  | [] => ([], server)
  | event :: events =>
    let (report, server) := step engine server event
    let (reports, server) := run engine server events
    (report :: reports, server)

end Server

end QueryGateway
