import QueryGateway.GraphQL.ProviderCell
import QueryGateway.GraphQL.Session
import QueryGateway.Proofs.Rejections

/-!
# Providers that are installed between requests

Each provider of a handler is the last one of its kind that was installed, or the one of a new handler if none was, or
if it was taken back since.  Whatever a request makes the engine execute is given what these two providers make of the
head of this request: every query of a batch is given the same, and nothing comes from any other request.
-/

namespace QueryGateway

open Http

/-! ## What was written last -/

section

variable {ε α : Type} {writes : ε → Option α}

/-- The last value that events write, or else the one before them. -/
def lastWritten (writes : ε → Option α) (before : α) (events : List ε) : α :=
  (events.filterMap writes).getLast?.getD before

theorem lastWritten_cons (before : α) (event : ε) (events : List ε) :
    lastWritten writes before (event :: events) = lastWritten writes ((writes event).getD before) events := by
  unfold lastWritten
  cases made : writes event with
  | none =>
      rw [List.filterMap_cons_none made]
      rfl
  | some value =>
      rw [List.filterMap_cons_some made, List.getLast?_cons]
      rfl

theorem lastWritten_concat (before : α) (events : List ε) (event : ε) :
    lastWritten writes before (events ++ [event]) = (writes event).getD (lastWritten writes before events) := by
  induction events generalizing before with
  | nil => exact lastWritten_cons before event []
  | cons first events ih => rw [List.cons_append, lastWritten_cons, lastWritten_cons, ih]

theorem lastWritten_concat_of_none {event : ε} (silent : writes event = none) (before : α) (events : List ε) :
    lastWritten writes before (events ++ [event]) = lastWritten writes before events := by
  unfold lastWritten
  rw [List.filterMap_append, List.filterMap_cons_none silent, List.filterMap_nil, List.append_nil]

end

namespace GraphQL.Session

/-! ## Providers of a handler -/

/-- The provider of contexts that an event installs. -/
def Event.context? (event : Event) : Option ContextProvider :=
  event.change?.bind fun
    | .context provider => some provider
    | .options _ => none
    | .loaders _ => none

/-- The provider of loaders that an event installs. -/
def Event.loaders? (event : Event) : Option LoaderProvider :=
  event.change?.bind fun
    | .loaders provider => some provider
    | .options _ => none
    | .context _ => none

/-- The last provider of each kind that events install, or else that of a new handler. -/
def installed (events : List Event) : Providers :=
  ⟨lastWritten Event.context? ContextProvider.request events, lastWritten Event.loaders? LoaderProvider.nothing events⟩

/-- What one step makes of each provider. -/
theorem providers_step (engine : Engine) (session : Session) (event : Event) :
    (session.step engine event).2.handler.providers =
      ⟨event.context?.getD session.handler.providers.context,
        event.loaders?.getD session.handler.providers.loaders⟩ := by
  rw [handler_step]
  cases event with
  | request | advance => rfl
  | change made =>
      cases made with
      | options | context | loaders => rfl
  | reset kind =>
      cases kind with
      | context | loaders => rfl

theorem providers_run (engine : Engine) (session : Session) (events : List Event) :
    (session.run engine events).2.handler.providers =
      ⟨lastWritten Event.context? session.handler.providers.context events,
        lastWritten Event.loaders? session.handler.providers.loaders events⟩ := by
  induction events generalizing session with
  | nil => rfl
  | cons event events ih =>
      rw [run_cons]
      dsimp only
      rw [ih, providers_step, lastWritten_cons, lastWritten_cons]

/-! ## The cell of the providers -/

/-- What an event does to the cell that holds the providers: a request takes a snapshot of it. -/
def Event.onCell (cell : ProviderCell) : Event → ProviderCell
  | .request _ => cell.next .snapshot
  | .change (.options _) => cell
  | .change (.context provider) => cell.next (.context provider)
  | .change (.loaders provider) => cell.next (.loaders provider)
  | .reset .context => cell.next (.context ContextProvider.request)
  | .reset .loaders => cell.next (.loaders LoaderProvider.nothing)
  | .advance _ => cell

/-- The cell of a new handler after events. -/
def cellAfter (events : List Event) : ProviderCell := events.foldl Event.onCell .new

theorem current_onCell (cell : ProviderCell) (event : Event) :
    (event.onCell cell).current =
      ⟨event.context?.getD cell.current.context, event.loaders?.getD cell.current.loaders⟩ := by
  cases event with
  | request | advance => rfl
  | change made =>
      cases made with
      | options | context | loaders => rfl
  | reset kind =>
      cases kind with
      | context | loaders => rfl

theorem current_foldl_onCell (cell : ProviderCell) (events : List Event) :
    (events.foldl Event.onCell cell).current =
      ⟨lastWritten Event.context? cell.current.context events,
        lastWritten Event.loaders? cell.current.loaders events⟩ := by
  induction events generalizing cell with
  | nil => rfl
  | cons event events ih => rw [List.foldl_cons, ih, current_onCell, lastWritten_cons, lastWritten_cons]

theorem snapshot_onCell {cell : ProviderCell} {place : Nat} {providers : Providers}
    (taken : cell.snapshots[place]? = some providers) (event : Event) :
    (event.onCell cell).snapshots[place]? = some providers := by
  cases event with
  | request => exact ProviderCell.snapshot_next taken _
  | advance => exact taken
  | change made =>
      cases made with
      | options => exact taken
      | context | loaders => exact ProviderCell.snapshot_next taken _
  | reset kind =>
      cases kind with
      | context | loaders => exact ProviderCell.snapshot_next taken _

theorem snapshot_foldl_onCell {cell : ProviderCell} {place : Nat} {providers : Providers}
    (taken : cell.snapshots[place]? = some providers) (events : List Event) :
    (events.foldl Event.onCell cell).snapshots[place]? = some providers := by
  induction events generalizing cell with
  | nil => exact taken
  | cons event events ih => exact ih (snapshot_onCell taken event)

/-- The snapshot that a request takes is the pair that was installed before it, and it stays so whatever is installed
later. -/
theorem snapshot_of_request (before after : List Event) (request : Request) :
    (cellAfter (before ++ .request request :: after)).snapshots[(cellAfter before).snapshots.length]? =
      some (installed before) := by
  unfold cellAfter
  rw [List.foldl_append, List.foldl_cons]
  refine snapshot_foldl_onCell ?_ after
  have current : (before.foldl Event.onCell .new).current = installed before := current_foldl_onCell .new before
  rw [← current]
  exact List.getElem?_concat_length

/-! ## What is executed under them -/

/-- Executions that are made of the queries of a request by a pair of providers. -/
structure RunsUnder (providers : Providers) (request : Request) (calls : List Execution) : Prop where
  context : ∀ execution ∈ calls, execution.context = providers.context request.head
  loaders : ∀ execution ∈ calls, execution.loaders = providers.loaders request.head

theorem runsUnder_of_executes {handler : Handler} {limit : Option Nat} {request : Request} {queries : List Query}
    {calls : List Execution} (executes : handler.Executes limit request queries calls) :
    RunsUnder handler.providers request calls := by
  obtain ⟨values, -, made⟩ := executes.inherited
  have each : ∀ execution ∈ calls, ∃ query, handler.providers.execution request.head query = execution := by
    intro execution member
    rw [made] at member
    obtain ⟨query, -, same⟩ := List.mem_map.mp member
    exact ⟨_, same⟩
  constructor
  · intro execution member
    obtain ⟨query, rfl⟩ := each execution member
    rfl
  · intro execution member
    obtain ⟨query, rfl⟩ := each execution member
    rfl

/-- A request is rejected, and executes nothing, or it executes the queries that it carries. -/
theorem step_request_cases (engine : Engine) (session : Session) (request : Request) :
    let report := (session.step engine (.request request)).1
    ((∃ rejection, report.ending = some (.failure (.rejected rejection))) ∧ report.activity.calls = []) ∨
      ∃ queries, session.handler.Executes none request queries report.activity.calls := by
  intro report
  let handling := session.handler.handle engine session.clock.started none request
  have ending : report.ending = some handling.ending := rfl
  have calls : report.activity.calls = handling.started.map Started.execution := rfl
  rcases session.handler.handle_cases engine session.clock.started none request with
    ⟨rejection, -, same⟩ | ⟨plan, -, accepted, -⟩
  · have here : handling = ⟨[], none, .failure (.rejected rejection)⟩ := same
    rw [ending, calls, here]
    exact Or.inl ⟨⟨rejection, rfl⟩, rfl⟩
  · exact Or.inr (Handler.executes_of_not_rejected accepted)

/-- A request in a run is the first step after those before it. -/
theorem report_of_request (engine : Engine) (session : Session) (before after : List Event) (request : Request) :
    (session.run engine (before ++ .request request :: after)).1[before.length]? =
      some ((session.run engine before).2.step engine (.request request)).1 := by
  have here : (session.run engine before).1.length = before.length := length_run engine session before
  rw [run_append]
  dsimp only
  rw [List.getElem?_append_right (Nat.le_of_eq here), here, Nat.sub_self, run_cons]
  rfl

/-- In every run of a new handler, a request is executed under the last providers that were installed before it: it is
rejected and executes nothing, or it executes the queries that it carries, each with what these providers make of the
head of this request.  They are the snapshot that the request takes, which stays what it is.  An event that installs
no provider of a kind leaves the one of this kind as it is. -/
theorem calls_under_last_installed (options : Options) (engine : Engine) (before after : List Event)
    (request : Request) :
    let session := ((new options).run engine before).2
    session.handler.providers = installed before ∧
      (∃ report, ((new options).run engine (before ++ .request request :: after)).1[before.length]? = some report ∧
        RunsUnder (installed before) request report.activity.calls ∧
        (((∃ rejection, report.ending = some (.failure (.rejected rejection))) ∧ report.activity.calls = []) ∨
          ∃ queries, session.handler.Executes none request queries report.activity.calls)) ∧
      (cellAfter (before ++ .request request :: after)).snapshots[(cellAfter before).snapshots.length]? =
        some (installed before) ∧
      ∀ event : Event,
        (event.context? = none → (installed (before ++ [event])).context = (installed before).context) ∧
          (event.loaders? = none → (installed (before ++ [event])).loaders = (installed before).loaders) := by
  intro session
  have providers : session.handler.providers = installed before := providers_run engine (new options) before
  refine ⟨providers, ⟨_, report_of_request engine (new options) before after request, ?_, ?_⟩,
    snapshot_of_request before after request, ?_⟩
  · rcases step_request_cases engine session request with ⟨-, nothing⟩ | ⟨queries, executes⟩
    · rw [nothing]
      exact ⟨fun _ member => absurd member List.not_mem_nil, fun _ member => absurd member List.not_mem_nil⟩
    · rw [← providers]
      exact runsUnder_of_executes executes
  · exact step_request_cases engine session request
  · intro event
    exact ⟨fun silent => lastWritten_concat_of_none silent _ before,
      fun silent => lastWritten_concat_of_none silent _ before⟩

/-- Providers of both kinds are installed, and that of contexts is taken back after a request. -/
def contextTakenBack : List Event :=
  [.change (.context (.constant "first")), .change (.loaders (.keys ["users"])), .request twoQueries,
    .reset .context, .change (.options ⟨true⟩)]

/-- Both queries of a batch are given the head of the request, and the loaders that are still installed. -/
theorem batch_under_one_pair :
    ∃ report, ((new ⟨false⟩).run Engine.echo (contextTakenBack ++ [.request twoQueries, .reset .loaders])).1[5]? =
        some report ∧ report.activity.calls.length = 2 ∧
      RunsUnder ⟨ContextProvider.request, LoaderProvider.keys ["users"]⟩ twoQueries report.activity.calls := by
  obtain ⟨-, ⟨report, here, under, -⟩, -⟩ :=
    calls_under_last_installed ⟨false⟩ Engine.echo contextTakenBack [.reset .loaders] twoQueries
  have two : ((new ⟨false⟩).run Engine.echo (contextTakenBack ++ [.request twoQueries, .reset .loaders])).1[5]?.map
      (fun report => report.activity.calls.length) = some 2 := by
    decide +kernel
  have counted := congrArg (Option.map fun report => report.activity.calls.length) here
  exact ⟨report, here, Option.some.inj (counted.symm.trans two), under⟩

end GraphQL.Session

end QueryGateway
