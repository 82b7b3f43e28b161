import QueryGateway.GraphQL.Handler

/-!
# Time

Time is a number of milliseconds.  An execution that does not panic ends at its start plus its delay, be that
while its request is handled or later; several ends are told in the order of their times, and those of one
time in the order of their starts.
-/

namespace QueryGateway.GraphQL

open Http

/-- An execution that will end, and when. -/
structure Due where
  time : Nat
  execution : Execution

/-- The time, how many executions were started so far, and those that still run, in the order of their starts. -/
structure Clock where
  now : Nat
  started : Nat
  running : List Due

namespace Clock

/-- The clock before anything happens. -/
def zero : Clock := ⟨0, 0, []⟩

/-- When an execution ends that starts now; one that panics does not. -/
def due? (clock : Clock) (started : Started) : Option Due :=
  if started.behaviour.outcome.isPanic then none
  else some ⟨clock.now + started.behaviour.delay, started.execution⟩

/-- Starts `count` executions, of which some run until they end. -/
def start (clock : Clock) (count : Nat) (lasting : List Started) : Clock :=
  { clock with
    started := clock.started + count
    running := clock.running ++ lasting.filterMap clock.due? }

/-- The executions that end up to a time, in the order of their ends. -/
def endsUntil (clock : Clock) (time : Nat) : List Due :=
  (clock.running.filter fun due => due.time ≤ time).mergeSort fun a b => a.time ≤ b.time

/-- Lets time pass up to a time. -/
def passTo (clock : Clock) (time : Nat) : Clock :=
  { clock with
    now := time
    running := clock.running.filter fun due => time < due.time }

end Clock

/-- What is told about a step: the executions that it started and those that ended in it, in order. -/
structure Activity where
  calls : List Execution
  finished : List Execution

/-- Lets time pass up to a time, with the ends in it. -/
def Clock.pass (clock : Clock) (calls : List Execution) (time : Nat) : Activity × Clock :=
  (⟨calls, (clock.endsUntil time).map Due.execution⟩, clock.passTo time)

/-- Starts the executions of a handling and waits until it is over. -/
def Clock.await (clock : Clock) (handling : Handling) : Activity × Clock :=
  let calls := handling.started.map Started.execution
  (clock.start calls.length handling.started).pass calls (clock.now + handling.duration)

/-- Handles a request to its end; at most `limit` octets of its body are read. -/
def Handler.serveWithin (handler : Handler) (engine : Engine) (clock : Clock) (limit : Option Nat)
    (request : Request) : Ending × Activity × Clock :=
  let handling := handler.handle engine clock.started limit request
  (handling.ending, clock.await handling)

/-- Handles a request to its end. -/
def Handler.serve (handler : Handler) (engine : Engine) (clock : Clock) (request : Request) :
    Ending × Activity × Clock :=
  handler.serveWithin engine clock none request

end QueryGateway.GraphQL
