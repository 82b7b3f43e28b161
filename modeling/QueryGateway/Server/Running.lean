import QueryGateway.Lifecycle.Shutdown
import QueryGateway.Server.Basic

/-!
# A running server

A server on a socket.  Two tasks run beside each other: one accepts requests until its waiter is released, the other
applies the configurations that are sent, in their order, and nobody waits for its end.  A step is something that
happens outside, and then the tasks work until both wait again.
Main statement: a server that stopped answers nothing.
-/

namespace QueryGateway.Server

open Http GraphQL

/-- A server on a socket. -/
structure Running where
  server : Server
  /-- Whether clients can reach the socket. -/
  reachable : Bool
  /-- The configurations that were sent and are not applied yet. -/
  pending : List Config
  /-- Whether configurations can still be sent. -/
  updatesOpen : Bool
  /-- The signal on which the server stops; its first waiter is that of the server. -/
  shutdown : Lifecycle.Shutdown
  stopped : Bool

namespace Running

/-- The signal when the server starts: there is one handle, and the server waits. -/
def awaited : Lifecycle.Shutdown := Lifecycle.Shutdown.new.next (.subscribe 0)

/-- The server when it starts. -/
def start (server : Server) (reachable : Bool) : Running := ⟨server, reachable, [], true, awaited, false⟩

/-- What happens to a running server. -/
inductive Event where
  | request (request : Request) (fresh : Bytes)
  | update (config : Config)
  | closeUpdates
  | trigger (handle : Nat)
  | clone (handle : Nat)
  | drop (handle : Nat)

/-- What an event is to the signal on which the server stops. -/
def Event.signal? : Event → Option Lifecycle.Shutdown.Event
  | .trigger handle => some (.trigger handle)
  | .clone handle => some (.clone handle)
  | .drop handle => some (.drop handle)
  | .request _ _ => none
  | .update _ => none
  | .closeUpdates => none

/-- What is told about an event. -/
inductive Told where
  | reply (reply : Reply)
  | refused
  | updated (options : Options)
  | closed
  | stopped
  | alreadyStopped
  | goesOn

/-- The head of a request as it arrives over a connection, with the length of its body. -/
def arriving (request : Request) : Request :=
  let length := Bytes.ofString (toString (Body.octets request.body).length)
  { request with
    head := { request.head with
      headers := request.head.headers ++ [("content-length", length)] } }

/-! ## Tasks -/

/-- The tasks of a running server. -/
inductive Task where
  /-- Accepts requests, until it is to stop. -/
  | accept
  /-- Applies configurations. -/
  | follow
  deriving DecidableEq, Repr

/-- A task does what there is to do next for it. -/
def work (running : Running) : Task → Running
  | .accept =>
    if running.stopped then running
    else
      match running.shutdown.sight 0 with
      | .ready => { running with shutdown := running.shutdown.poll 0, stopped := true }
      | .pending => running
      | .gone => running
  | .follow =>
    match running.pending with
    | [] => running
    | config :: pending => { running with server := running.server.reconfigure config, pending }

/-- The tasks work until both wait. -/
def settle (running : Running) : Running :=
  ((running.pending.map fun _ => Task.follow) ++ [Task.accept]).foldl work running

/-! ## Steps -/

/-- One event, and the work that follows from it. -/
def step (engine : Engine) (running : Running) : Event → Told × Running
  | .request request fresh =>
    if running.stopped || !running.reachable then (.refused, running)
    else
      let (reply, _, server) := running.server.serve engine fresh (arriving request)
      (.reply reply, { running with server })
  | .update config =>
    let sent := if running.updatesOpen then running.pending ++ [config] else running.pending
    let running := { running with pending := sent }.settle
    (.updated running.server.handler.options, running)
  | .closeUpdates => (.closed, { running with updatesOpen := false })
  | .trigger handle => signal running (.trigger handle)
  | .clone handle => signal running (.clone handle)
  | .drop handle => signal running (.drop handle)
where
  /-- Something happens to the signal on which the server stops. -/
  signal (running : Running) (event : Lifecycle.Shutdown.Event) : Told × Running :=
    let after := { running with shutdown := running.shutdown.next event }.settle
    (if running.stopped then .alreadyStopped else if after.stopped then .stopped else .goesOn, after)

/-- A sequence of events. -/
def run (engine : Engine) (running : Running) : List Event → List Told × Running
  | [] => ([], running)
  | event :: events =>
    let (told, running) := running.step engine event
    let (tolds, running) := run engine running events
    (told :: tolds, running)

theorem refused_of_stopped {running : Running} (h : running.stopped = true) (engine : Engine)
    (request : Request) (fresh : Bytes) :
    running.step engine (.request request fresh) = (.refused, running) := by
  simp [step, h]

end Running

end QueryGateway.Server
