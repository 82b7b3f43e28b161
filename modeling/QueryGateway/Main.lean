import QueryGateway.CommandLine.Program
import QueryGateway.Server.Identifier
import QueryGateway.Server.Watched
import Std.Async.Signal
import Std.Async.Timer
import Std.Http.Server

/-!
# The command line

Reads the file, opens the sockets, passes messages on and prints.  What is answered and printed is decided by
`QueryGateway.Server` and `QueryGateway.CommandLine`.
-/

open QueryGateway QueryGateway.Http
open Std.Async

namespace QueryGateway.CommandLine

/-! ## Files and lines -/

/-- What stands at a path of the file system. -/
def sourceAt (path : String) : IO Config.Source := do
  try
    let content ← IO.FS.readBinFile path
    return .file content.data.toList
  catch
    | .noFileOrDirectory .. => return .refused .notFound
    | .permissionDenied .. => return .refused .permissionDenied
    | _ => return .refused .isADirectory

/-- Prints the lines that a configuration shows. -/
def printLines (config : Config) (lines : List LogLine) : IO Unit := do
  for line in shownLines config lines do
    IO.println line
  (← IO.getStdout).flush

/-- The system that the program runs on, as far as it is known before a socket is opened. -/
def hostWith (source : Config.Source) : Host := ⟨fun _ => source, fun _ => none⟩

/-! ## Messages -/

/-- The address of a socket. -/
def socketOf : Config.SocketAddress → Option Std.Net.SocketAddress
  | .v4 [a, b, c, d] port =>
    some (.v4 ⟨.ofParts a.toUInt8 b.toUInt8 c.toUInt8 d.toUInt8, port.toUInt16⟩)
  | .v6 [a, b, c, d, e, f, g, h] _ port =>
    some (.v6 ⟨.ofParts a.toUInt16 b.toUInt16 c.toUInt16 d.toUInt16 e.toUInt16 f.toUInt16 g.toUInt16
      h.toUInt16, port.toUInt16⟩)
  | _ => none

/-- Reads a body to its end. -/
def readBody (stream : Std.Http.Body.Stream) : Async Body := do
  let mut chunks : Array Chunk := #[]
  try
    for chunk in stream do
      chunks := chunks.push (.data chunk.data.data.toList)
  catch error =>
    chunks := chunks.push (.failure (toString error))
  return chunks.toList

/-- The fields of a message that was read. -/
def fieldsOf (headers : Std.Http.Headers) : List (String × Bytes) :=
  headers.toList.map fun (name, value) => (name.value, Bytes.ofString value.value)

/-- Writes a response. -/
def written (response : Response) : Async (Std.Http.Response Std.Http.Body.Any) := do
  let status := (Std.Http.Status.ofCode none response.status.toUInt16).getD .internalServerError
  let headers := response.headers.foldl
    (fun headers (name, value) =>
      match value.toString? with
      | some text => (headers.insert? name text).getD headers
      | none => headers) (Std.Http.Headers.empty)
  let builder := (Std.Http.Response.withStatus status).headers headers
  let full ← builder.fromBytes response.body.toUTF8
  return full

/-- Answers a request that arrived. -/
def answer (state : IO.Ref Server.Watched) (request : Std.Http.Request Std.Http.Body.Stream) :
    Async (Std.Http.Response Std.Http.Body.Any) := do
  let head := Head.build? (toString request.line.method) (toString request.line.uri)
    (fieldsOf request.line.headers)
  match head with
  | none => written (.empty 400)
  | some head =>
    let body ← readBody request.body
    let fresh := Server.identifierOf (← IO.getRandomBytes 16).data.toList
    let told ← state.modifyGet fun watched =>
      watched.step GraphQL.Engine.echo (.request ⟨head, body⟩ fresh)
    match told with
    | .report ⟨some (.response response), _⟩ => written response
    | _ => written (.empty 500)

/-- Answers with the samples of metrics. -/
def answerMetrics (state : IO.Ref Server.Watched) : Async (Std.Http.Response Std.Http.Body.Any) := do
  let watched ← state.get
  let samples := watched.server.metrics.lines.map (· ++ "\n")
  written (.message 200 (String.join samples))

/-! ## Serving -/

/-- The milliseconds between two looks at a watched file. -/
def watchInterval : Std.Time.Millisecond.Offset := 2000

/-- Waits for a signal to stop, and looks at a watched file now and then. -/
def untilStopped (state : IO.Ref Server.Watched) (watched : Option String) : Async Unit := do
  let interrupt ← Signal.Waiter.mk .sigint false
  let terminate ← Signal.Waiter.mk .sigterm false
  repeat
    let mut events : Array (Selectable Bool) :=
      #[.case interrupt.selector fun _ => pure true, .case terminate.selector fun _ => pure true]
    if watched.isSome then
      let pause ← Selector.sleep watchInterval
      events := events.push (.case pause fun _ => pure false)
    if ← Selectable.one events then
      break
    if let some path := watched then
      let current ← sourceAt path
      if current ≠ (← state.get).source then
        state.modify fun server =>
          (server.run GraphQL.Engine.echo [.put current, .notice .modified, .take]).2

/-- The limits of messages that the sockets keep: none below those of the server. -/
def socketLimits : Std.Http.Config :=
  { maxBodySize := Server.wordCount, maxHeaders := 1024, serverName := none }

/-- Serves until a signal to stop. -/
def serveUntilStopped (host : Host) (server : Server) (watched : Option String) : Async Unit := do
  let config := server.config
  IO.eprint (filterNotes config)
  let source : Config.Source ←
    match watched with
    | some path => sourceAt path
    | none => pure (.refused .notFound)
  let state ← IO.mkRef (Server.Watched.start server source)
  if config.observability.metricsEnabled then
    let exporter := (Config.SocketAddress.parse? config.observability.metricsAddress).bind socketOf
    if let some address := exporter then
      try
        discard <| Std.Http.Server.serve address
          (Std.Http.Server.Handler.ofFn fun _ => answerMetrics state) socketLimits
      catch error =>
        printLines config
          [⟨.error, "graphql_http_adapter::observability::metrics",
            "Failed to install metrics exporter", [("error", toString error)]⟩]
  printLines config (readyLines host config watched)
  match (Config.SocketAddress.parse? config.listener.bindAddress).bind socketOf with
  | none => throw (.userError "invalid socket address")
  | some address =>
    let listener ← Std.Http.Server.serve address
      (Std.Http.Server.Handler.ofFn fun request => answer state request) socketLimits
    let bound := ((listener.localAddr.map toString).getD config.listener.bindAddress)
    let shown := { config with listener.bindAddress := bound }
    printLines config [listeningLine shown, serverLine shown]
    untilStopped state watched
    listener.shutdown
    printLines config stopLines

/-- Prints what a run leaves behind. -/
def finish (exit : Exit) : IO UInt32 := do
  for line in exit.output do
    IO.println line
  if !exit.errors.isEmpty then
    IO.eprintln exit.errors.trimAsciiEnd
  return exit.code.toUInt32

/-- Runs the program. -/
def run (arguments : List String) : IO UInt32 := do
  let named := (Arguments.parse arguments).toOption.bind Arguments.config
  let source ←
    match named with
    | some path => sourceAt path
    | none => pure (.refused .notFound)
  let host := hostWith source
  match start host arguments with
  | .over exit => finish exit
  | .serving config watched =>
    match Server.new? config with
    | none => return panicCode.toUInt32
    | some server =>
      try
        (serveUntilStopped host server watched).block
        return 0
      catch error =>
        IO.eprintln ("Error: " ++ toString error)
        return 1

end QueryGateway.CommandLine

/-- Runs the program with its arguments. -/
def main (arguments : List String) : IO UInt32 := QueryGateway.CommandLine.run arguments
