import QueryGateway.Config.Watch
import QueryGateway.Server.Basic

/-!
# A server that follows a file

A server with the watcher of its configuration file.  Whenever the watcher is told that the file was changed, it loads
what stands at the path of the file by then, and sends the configuration to the server if there is one.  The server
takes the configurations in the order in which they were sent, each of them at some later time.
Main statements: a notice of a change sends what loads, and where nothing loads it leaves everything as it was.
-/

namespace QueryGateway.Server

open Http GraphQL

/-- What a watcher is told of its file. -/
inductive Notice where
  | modified
  | created
  /-- Something else happened to the file, such as that it was read or removed. -/
  | other
  /-- The file cannot be watched. -/
  | failed
  deriving DecidableEq, Repr

/-- Whether a notice tells that the content may be another one. -/
def Notice.isChange : Notice → Bool
  | .modified => true
  | .created => true
  | .other => false
  | .failed => false

/-- A server with the watcher of its configuration file. -/
structure Watched where
  server : Server
  /-- What stands at the path of the file. -/
  source : Config.Source
  /-- The configurations that were sent and not taken yet, in order. -/
  pending : List Config

namespace Watched

/-- The server when it starts. -/
def start (server : Server) (source : Config.Source) : Watched := ⟨server, source, []⟩

/-- What happens to a server that follows a file. -/
inductive Event where
  /-- Something else comes to stand at the path of the file. -/
  | put (source : Config.Source)
  | notice (notice : Notice)
  /-- The server takes the next configuration. -/
  | take
  | request (request : Request) (fresh : Bytes)
  | advance (milliseconds : Nat)

/-- What is told about an event. -/
inductive Told where
  | nothing
  /-- What the watcher sends, if what it was told makes it send anything. -/
  | sent (config : Option Config)
  | report (report : Report)

/-- The configuration that a notice makes the watcher send. -/
def reload? (watched : Watched) (notice : Notice) : Option Config :=
  if notice.isChange then Config.Watch.loaded? watched.source else none

/-- A step of the server. -/
def serve (engine : Engine) (watched : Watched) (event : Server.Event) : Told × Watched :=
  let (report, server) := watched.server.step engine event
  (.report report, { watched with server })

/-- One event. -/
def step (engine : Engine) (watched : Watched) : Event → Told × Watched
  | .put source => (.nothing, { watched with source })
  | .notice notice =>
    let config := watched.reload? notice
    (.sent config, { watched with pending := watched.pending ++ config.toList })
  | .take =>
    match watched.pending with
    | [] => (.nothing, watched)
    | config :: pending => { watched with pending }.serve engine (.reconfigure config)
  | .request request fresh => watched.serve engine (.request request fresh)
  | .advance milliseconds => watched.serve engine (.advance milliseconds)

/-- A sequence of events. -/
def run (engine : Engine) (watched : Watched) : List Event → List Told × Watched
  | [] => ([], watched)
  | event :: events =>
    let (told, watched) := watched.step engine event
    let (more, watched) := watched.run engine events
    (told :: more, watched)

theorem reload?_of_change {notice : Notice} (change : notice.isChange = true) (watched : Watched) :
    watched.reload? notice = Config.Watch.loaded? watched.source := if_pos change

theorem reload?_of_not_change {notice : Notice} (noChange : notice.isChange = false) (watched : Watched) :
    watched.reload? notice = none := if_neg (Bool.eq_false_iff.mp noChange)

/-- Where nothing loads, nothing is sent, and everything stays as it was. -/
theorem step_notice_of_not_loaded {watched : Watched} (refused : Config.Watch.loaded? watched.source = none)
    (engine : Engine) (notice : Notice) : watched.step engine (.notice notice) = (.sent none, watched) := by
  have none : watched.reload? notice = none := by
    cases change : notice.isChange with
    | false => exact reload?_of_not_change change watched
    | true => exact (reload?_of_change change watched).trans refused
  rw [step, none]
  exact congrArg (fun pending => (Told.sent _, { watched with pending })) (List.append_nil watched.pending)

end Watched

end QueryGateway.Server
