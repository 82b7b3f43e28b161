import QueryGateway.GraphQL.Clock

/-!
# Sessions

A handler between requests: its options and its providers are replaced, or providers are taken back to those of a
new handler, and requests are handled to their ends.
Main statements: a handler follows what is done to it, and no request changes it.
-/

namespace QueryGateway.GraphQL

open Http

/-- The kinds of providers. -/
inductive ProviderKind where
  | context
  | loaders
  deriving DecidableEq, Repr

/-- The change that takes a provider back to the one of a new handler. -/
def HandlerChange.reset : ProviderKind → HandlerChange
  | .context => .context Providers.standard.context
  | .loaders => .loaders Providers.standard.loaders

/-- A handler and its time. -/
structure Session where
  handler : Handler
  clock : Clock

namespace Session

/-- A new handler, before anything happens. -/
def new (options : Options) : Session := ⟨.new options, .zero⟩

/-- What happens to a handler. -/
inductive Event where
  | request (request : Request)
  | change (change : HandlerChange)
  | reset (kind : ProviderKind)
  | advance (milliseconds : Nat)

/-- The change that an event makes, if it makes one. -/
def Event.change? : Event → Option HandlerChange
  | .change made => some made
  | .reset kind => some (.reset kind)
  | .request _ => none
  | .advance _ => none

/-- What is told about a step. -/
structure Report where
  ending : Option Ending
  activity : Activity

/-- What is told when nothing was started and nothing ended. -/
def quiet : Report := ⟨none, ⟨[], []⟩⟩

/-- The session after a change of its handler. -/
def change (session : Session) (change : HandlerChange) : Session :=
  { session with handler := session.handler.change change }

/-- One step. -/
def step (engine : Engine) (session : Session) : Event → Report × Session
  | .request request =>
    let (ending, activity, clock) := session.handler.serve engine session.clock request
    (⟨some ending, activity⟩, { session with clock })
  | .change change => (quiet, session.change change)
  | .reset kind => (quiet, session.change (.reset kind))
  | .advance milliseconds =>
    let (activity, clock) := session.clock.pass [] (session.clock.now + milliseconds)
    (⟨none, activity⟩, { session with clock })

/-- A sequence of steps. -/
def run (engine : Engine) (session : Session) : List Event → List Report × Session
  | [] => ([], session)
  | event :: events =>
    let (report, session) := session.step engine event
    let (reports, session) := session.run engine events
    (report :: reports, session)

theorem run_cons (engine : Engine) (session : Session) (event : Event) (events : List Event) :
    session.run engine (event :: events) =
      ((session.step engine event).1 :: ((session.step engine event).2.run engine events).1,
        ((session.step engine event).2.run engine events).2) := rfl

/-- A handler follows what is done to it, and no request changes it. -/
theorem handler_step (engine : Engine) (session : Session) (event : Event) :
    (session.step engine event).2.handler = event.change?.elim session.handler session.handler.change := by
  cases event with
  | request | change | reset | advance => rfl

/-- A run that goes on after its first events. -/
theorem run_append (engine : Engine) (session : Session) (events others : List Event) :
    session.run engine (events ++ others) =
      ((session.run engine events).1 ++ ((session.run engine events).2.run engine others).1,
        ((session.run engine events).2.run engine others).2) := by
  induction events generalizing session with
  | nil => rfl
  | cons event events ih =>
      rw [List.cons_append, run_cons, ih, run_cons]
      rfl

theorem length_run (engine : Engine) (session : Session) (events : List Event) :
    (session.run engine events).1.length = events.length := by
  induction events generalizing session with
  | nil => rfl
  | cons event events ih =>
      rw [run_cons]
      exact congrArg (· + 1) (ih (session.step engine event).2)

end Session

end QueryGateway.GraphQL
