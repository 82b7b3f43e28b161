import QueryGateway.Config.Load

/-!
# Watching a configuration file

Every change of the file is loaded.  A configuration that loads is sent on; while one does not, the last one
that did stays.
Main statement: what is sent are the configurations that load, in order.
-/

namespace QueryGateway.Config.Watch

/-- The configuration in a source, if it loads. -/
def loaded? (source : Source) : Option Config := (load source).toOption

theorem loaded?_eq_some_iff {source : Source} {config : Config} :
    loaded? source = some config ↔ load source = .ok config := by
  unfold loaded?
  cases load source with
  | error fault => exact ⟨nofun, nofun⟩
  | ok read => exact ⟨fun same => congrArg Except.ok (Option.some.inj same), fun same => by rw [same]; rfl⟩

/-- The configuration that a change of the file sends, if its content loads. -/
def sent? (octets : Bytes) : Option Config := loaded? (.file octets)

/-- The configurations that a sequence of changes sends. -/
def sent (contents : List Bytes) : List Config := contents.filterMap sent?

/-- The configuration in force after a sequence of changes. -/
def inForce (initial : Config) (contents : List Bytes) : Config := ((sent contents).getLast?).getD initial

theorem mem_sent {contents : List Bytes} {config : Config} :
    config ∈ sent contents ↔ ∃ octets ∈ contents, load (.file octets) = .ok config := by
  simp only [sent, List.mem_filterMap]
  exact exists_congr fun octets => and_congr_right fun _ => loaded?_eq_some_iff

end QueryGateway.Config.Watch
