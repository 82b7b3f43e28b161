import QueryGateway.Config.Basic
import QueryGateway.Config.SocketAddress

/-!
# Validation

The rules that a configuration must keep, and the list of those that it breaks.
Main statement: a configuration without problems keeps every rule, and conversely.
-/

namespace QueryGateway.Config

/-- A rule that a configuration breaks, with the value at fault. -/
inductive Problem where
  | invalidAddress (field value : String)
  | invalidPath (value : String)
  | zeroBodyLimit
  | zeroTimeout
  deriving DecidableEq, Repr

/-- The text of a problem. -/
def Problem.message : Problem → String
  | .invalidAddress field value => "invalid " ++ field ++ " '" ++ value ++ "': not a socket address"
  | .invalidPath value => "graphql.path '" ++ value ++ "' must start with '/'"
  | .zeroBodyLimit => "graphql.max_body_size must be greater than zero"
  | .zeroTimeout => "timeouts.request_secs must be greater than zero"

/-- Whether a text is a socket address. -/
def isAddress (text : String) : Bool := (SocketAddress.parse? text).isSome

/-- Whether a path starts at the root. -/
def isRooted (path : String) : Bool := path.toList.head? == some '/'

/-- A problem, unless a rule holds. -/
def unlessHolds (rule : Bool) (problem : Problem) : List Problem := if rule then [] else [problem]

/-- The rules that a configuration breaks, in a fixed order. -/
def problems (config : Config) : List Problem :=
  unlessHolds (isAddress config.listener.bindAddress)
      (.invalidAddress "listener.bind_address" config.listener.bindAddress)
    ++ unlessHolds (isRooted config.graphql.path) (.invalidPath config.graphql.path)
    ++ unlessHolds (config.graphql.bodyLimit != 0) .zeroBodyLimit
    ++ unlessHolds (config.timeouts.requestSeconds != 0) .zeroTimeout
    ++ unlessHolds (!config.observability.metricsEnabled || isAddress config.observability.metricsAddress)
      (.invalidAddress "observability.metrics_address" config.observability.metricsAddress)

/-- The configuration keeps every rule. -/
structure IsValid (config : Config) : Prop where
  bindAddress : isAddress config.listener.bindAddress = true
  path : isRooted config.graphql.path = true
  bodyLimit : config.graphql.bodyLimit ≠ 0
  requestSeconds : config.timeouts.requestSeconds ≠ 0
  metricsAddress : config.observability.metricsEnabled = true →
    isAddress config.observability.metricsAddress = true

@[simp] theorem unlessHolds_eq_nil {rule : Bool} {problem : Problem} :
    unlessHolds rule problem = [] ↔ rule = true := by
  cases rule <;> simp [unlessHolds]

theorem problems_eq_nil_iff {config : Config} : problems config = [] ↔ IsValid config := by
  constructor
  · intro h
    simp only [problems, List.append_eq_nil_iff, unlessHolds_eq_nil, bne_iff_ne] at h
    obtain ⟨⟨⟨⟨ha, hp⟩, hb⟩, ht⟩, hm⟩ := h
    exact ⟨ha, hp, hb, ht, fun he => by simpa [he] using hm⟩
  · intro h
    simp only [problems, List.append_eq_nil_iff, unlessHolds_eq_nil, bne_iff_ne]
    refine ⟨⟨⟨⟨h.bindAddress, h.path⟩, h.bodyLimit⟩, h.requestSeconds⟩, ?_⟩
    cases he : config.observability.metricsEnabled
    · rfl
    · simpa using h.metricsAddress he

end QueryGateway.Config
