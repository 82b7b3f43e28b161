import QueryGateway.GraphQL.Execution

/-!
# Shared providers

A cell holds the current pair of providers.  A setter replaces one of them and keeps the other; a snapshot is
the pair of its moment.
Main statement: a snapshot stays what it is.
-/

namespace QueryGateway.GraphQL

/-- The current pair of providers, and the snapshots in the order in which they were taken. -/
structure ProviderCell where
  current : Providers
  snapshots : List Providers

namespace ProviderCell

/-- The cell with the standard providers. -/
def new : ProviderCell := ⟨.standard, []⟩

/-- What happens to a cell. -/
inductive Event where
  | snapshot
  | context (provider : ContextProvider)
  | loaders (provider : LoaderProvider)

/-- The cell after an event. -/
def next (cell : ProviderCell) : Event → ProviderCell
  | .snapshot => { cell with snapshots := cell.snapshots ++ [cell.current] }
  | .context context => { cell with current := { cell.current with context } }
  | .loaders loaders => { cell with current := { cell.current with loaders } }

theorem snapshot_next {cell : ProviderCell} {i : Nat} {providers : Providers}
    (h : cell.snapshots[i]? = some providers) (event : Event) :
    (cell.next event).snapshots[i]? = some providers := by
  cases event <;> simp only [next]
  · rw [List.getElem?_append_left, h]
    exact (List.getElem?_eq_some_iff.1 h).1
  · exact h
  · exact h

end ProviderCell

end QueryGateway.GraphQL
