import QueryGateway.CommandLine.Arguments
import QueryGateway.CommandLine.LogFilter
import QueryGateway.Host.Basic
import QueryGateway.Server.Route

/-!
# The program

What the program does with its arguments: it shows its help, refuses them, fails to start, or serves until it is
asked to stop.  The system that it runs on is a parameter.
-/

namespace QueryGateway.CommandLine

open Config

/-- The help text, line by line. -/
def helpLines : List String :=
  ["Serve GraphQL over HTTP",
   "",
   "Usage: graphql-http-adapter [OPTIONS]",
   "",
   "Options:",
   "  -c, --config <CONFIG>  Path to a TOML configuration file. Defaults are used when omitted",
   "  -w, --watch            Reload the configuration file when it changes",
   "  -h, --help             Print help"]

/-- The version that the program tells. -/
def version : String := "0.1.0"

/-! ## Faults as they are shown at the start -/

/-- A file fault as it is shown. -/
def showFileFault : FileFault → String
  | .refused refusal => refusal.inspect
  | .notText =>
    "Error \x7b kind: InvalidData, message: \"stream did not contain valid UTF-8\" \x7d"

/-- A problem as it is shown. -/
def showProblem : Problem → String
  | .invalidAddress field value =>
    "InvalidAddress \x7b field: " ++ Text.quote field ++ ", value: " ++ Text.quote value ++ " \x7d"
  | .invalidPath value => "InvalidPath(" ++ Text.quote value ++ ")"
  | .zeroBodyLimit => "ZeroBodySize"
  | .zeroTimeout => "ZeroTimeout"

/-- A list as it is shown. -/
def showList (items : List String) : String := "[" ++ ", ".intercalate items ++ "]"

/-- A span of a text as it is shown. -/
def showSpan (text : String) : Option Text.Span → String
  | none => "None"
  | some span =>
    let (first, last) := span.range text.utf8ByteSize
    "Some(" ++ toString first ++ ".." ++ toString last ++ ")"

/-- A part of a text that is not of the right shape, as it is shown. -/
def showMisfit (text : String) (misfit : Shape.Misfit) : String :=
  "TomlError \x7b message: " ++ Text.quote misfit.mismatch.message
    ++ ", raw: Some(" ++ Text.quote text
    ++ "), keys: " ++ showList (misfit.path.map Text.quote)
    ++ ", span: " ++ showSpan text misfit.span ++ " \x7d"

/-- A load fault as it is shown. -/
def showLoadFault : LoadFault → String
  | .unreadable fault => "Io(" ++ showFileFault fault ++ ")"
  | .notToml => "Parse(Error)"
  | .misfit text cause => "Parse(" ++ showMisfit text cause ++ ")"
  | .invalid problems => "Validation(" ++ showList (problems.map showProblem) ++ ")"

/-- What is told of a start that fails. -/
def startError (shown : String) : String := "Error: " ++ shown ++ "\n"

/-! ## Log lines of a run -/

/-- A line about the run. -/
def infoLine (target message : String) (fields : List (String × String)) : LogLine :=
  ⟨.info, target, message, fields⟩

/-- The address as it is told once connections are accepted there. -/
def boundAddress (config : Config) : String :=
  match SocketAddress.parse? config.listener.bindAddress with
  | some address => address.text
  | none => config.listener.bindAddress

/-- The address at which metrics are told, if there is one. -/
def metricsAddress? (config : Config) : Option SocketAddress :=
  if config.observability.metricsEnabled then SocketAddress.parse? config.observability.metricsAddress
  else none

/-- The lines of the exporter of metrics. -/
def metricsLines (host : Host) (config : Config) : List LogLine :=
  if config.observability.metricsEnabled then
    match SocketAddress.parse? config.observability.metricsAddress with
    | some address =>
      let target := "graphql_http_adapter::observability::metrics"
      match host.listenRefusal? [] address with
      | none => [infoLine target "Metrics exporter listening" [("address", address.text)]]
      | some refusal =>
        [⟨.error, target, "Failed to install metrics exporter",
          [("address", address.text), ("error", "failed to create HTTP listener: " ++ refusal.message)]⟩]
    | none =>
      [⟨.error, "graphql_http_adapter", "Failed to parse metrics address",
        [("metrics_address", config.observability.metricsAddress)]⟩]
  else []

/-- The lines of the watcher of a file. -/
def watchLines : Option String → List LogLine
  | some path =>
    [infoLine "graphql_http_adapter::config::watcher" "Config watcher started" [("path", Text.quote path)]]
  | none => []

/-- The lines before the socket is opened. -/
def readyLines (host : Host) (config : Config) (watched : Option String) : List LogLine :=
  [infoLine "graphql_http_adapter" ("graphql-http-adapter v" ++ version ++ " starting") [],
   infoLine "graphql_http_adapter" "Configuration loaded"
    [("bind_address", config.listener.bindAddress), ("path", config.graphql.path),
     ("request_batching_enabled", toString config.graphql.batching),
     ("request_timeout_secs", toString config.timeouts.requestSeconds.toNat)]]
    ++ metricsLines host config
    ++ watchLines watched

/-- The line that tells where connections are accepted. -/
def listeningLine (config : Config) : LogLine :=
  infoLine "graphql_http_adapter" "Listening for connections" [("address", boundAddress config)]

/-- The lines until connections are accepted. -/
def startLines (host : Host) (config : Config) (watched : Option String) : List LogLine :=
  readyLines host config watched ++ [listeningLine config]

/-- The line of the server when it starts. -/
def serverLine (config : Config) : LogLine :=
  infoLine "graphql_http_adapter::http::server" "HTTP server starting"
    [("address", boundAddress config), ("path", config.graphql.path)]

/-- The lines after a signal to stop. -/
def stopLines : List LogLine :=
  [infoLine "graphql_http_adapter::lifecycle::signals" "Shutdown signal received" [],
   infoLine "graphql_http_adapter::http::server" "HTTP server stopped" [],
   infoLine "graphql_http_adapter" "Shutdown complete" []]

/-! ## Logging -/

/-- The text of the filter that a configuration sets. -/
def logFilterText (config : Config) : String := filterText config.observability.logLevel

/-- The lines that a configuration shows. -/
def shownLines (config : Config) (lines : List LogLine) : List String :=
  (LogFilter.ofText (logFilterText config)).shownLines lines

/-- What is told of the directives of the filter that are ignored, each on a line. -/
def filterNotes (config : Config) : String :=
  String.join ((LogFilter.notes (logFilterText config)).map (· ++ "\n"))

/-! ## Runs -/

/-- What a run leaves behind. -/
structure Exit where
  code : Nat
  output : List String
  errors : String
  deriving DecidableEq, Repr

/-- How a run goes on after its start. -/
inductive Start where
  /-- The run is over. -/
  | over (exit : Exit)
  /-- The server runs; a file may be watched. -/
  | serving (config : Config) (watched : Option String)

/-- The exit code of a run that a panic ends. -/
def panicCode : Nat := 101

/-- Why the program cannot listen at its address, if it cannot. -/
def bindRefusal? (host : Host) (config : Config) : Option Host.Refusal :=
  let exporter := (metricsAddress? config).filter fun address => (host.listenRefusal? [] address).isNone
  (SocketAddress.parse? config.listener.bindAddress).bind (host.listenRefusal? exporter.toList)

/-- Starts with arguments that were read. -/
def startWith (host : Host) (arguments : Arguments) : Start :=
  let loaded : Except LoadFault Config :=
    match arguments.config with
    | none => .ok Config.standard
    | some path => load (host.files path)
  match loaded with
  | .error fault => .over ⟨1, [], startError (showLoadFault fault)⟩
  | .ok config =>
    let watched := if arguments.watch then arguments.config else none
    match bindRefusal? host config with
    | some refusal =>
      .over ⟨1, shownLines config (readyLines host config watched),
        filterNotes config ++ startError refusal.inspect⟩
    | none =>
      match Server.Route.parse? config.graphql.path with
      | none =>
        .over ⟨panicCode, shownLines config (startLines host config watched), filterNotes config⟩
      | some _ => .serving config watched

/-- Starts the program. -/
def start (host : Host) (arguments : List String) : Start :=
  match Arguments.parse arguments with
  | .error .help => .over ⟨0, helpLines, ""⟩
  | .error (.fault fault) => .over ⟨2, [], "error: " ++ fault.message⟩
  | .ok arguments => startWith host arguments

/-- What a run leaves behind that a signal stops. -/
def stopped (host : Host) (config : Config) (watched : Option String) : Exit :=
  let lines := startLines host config watched ++ [serverLine config] ++ stopLines
  ⟨0, shownLines config lines, filterNotes config⟩

end QueryGateway.CommandLine
