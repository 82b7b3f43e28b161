import Mathlib.Data.List.Basic
import QueryGateway.Config.Load

/-!
# Rules and problems

A configuration is checked by five rules in one order, said here without the check.  Each looks at its own part of the
configuration only, and a broken one is told of once, with the value at fault.  So the problems of a configuration are
its broken rules, in order; loading lets no configuration with a problem through, and what it tells of one are exactly
its problems.
-/

namespace QueryGateway.Config

/-! ## Rules -/

/-- The rules for a configuration. -/
inductive Rule where
  | bindAddress
  | path
  | bodyLimit
  | requestSeconds
  | metricsAddress
  deriving DecidableEq, Repr

/-- A text writes a socket address. -/
def WritesAddress (text : String) : Prop := ∃ address, SocketAddress.parse? text = some address

/-- A path starts at the root. -/
def StartsAtRoot (path : String) : Prop := ∃ rest, path.toList = '/' :: rest

theorem isAddress_iff {text : String} : isAddress text = true ↔ WritesAddress text := Option.isSome_iff_exists

theorem isRooted_iff {path : String} : isRooted path = true ↔ StartsAtRoot path := by
  unfold isRooted StartsAtRoot
  cases path.toList with
  | nil => simp
  | cons c rest => simp

theorem bne_zero_iff {n : UInt64} : (n != 0) = true ↔ 0 < n.toNat := by
  rw [bne_iff_ne, ne_eq, ← UInt64.toNat_inj, Nat.pos_iff_ne_zero]
  rfl

instance (text : String) : Decidable (WritesAddress text) := decidable_of_iff _ isAddress_iff

instance (path : String) : Decidable (StartsAtRoot path) := decidable_of_iff _ isRooted_iff

namespace Rule

/-- The rules in the order in which they are checked. -/
def inOrder : List Rule := [bindAddress, path, bodyLimit, requestSeconds, metricsAddress]

/-- A configuration keeps a rule. -/
def KeptBy (config : Config) : Rule → Prop
  | bindAddress => WritesAddress config.listener.bindAddress
  | path => StartsAtRoot config.graphql.path
  | bodyLimit => 0 < config.graphql.bodyLimit.toNat
  | requestSeconds => 0 < config.timeouts.requestSeconds.toNat
  | metricsAddress => config.observability.metricsEnabled = true → WritesAddress config.observability.metricsAddress

instance (config : Config) : (rule : Rule) → Decidable (rule.KeptBy config)
  | bindAddress => inferInstanceAs (Decidable (WritesAddress _))
  | path => inferInstanceAs (Decidable (StartsAtRoot _))
  | bodyLimit => inferInstanceAs (Decidable (_ < _))
  | requestSeconds => inferInstanceAs (Decidable (_ < _))
  | metricsAddress => inferInstanceAs (Decidable (_ → WritesAddress _))

/-- What is told of a configuration that breaks a rule. -/
def problem (config : Config) : Rule → Problem
  | bindAddress => .invalidAddress "listener.bind_address" config.listener.bindAddress
  | path => .invalidPath config.graphql.path
  | bodyLimit => .zeroBodyLimit
  | requestSeconds => .zeroTimeout
  | metricsAddress => .invalidAddress "observability.metrics_address" config.observability.metricsAddress

/-- The rules that a configuration breaks, in order. -/
def broken (config : Config) : List Rule := inOrder.filter fun rule => ¬rule.KeptBy config

/-- Two configurations agree in the part that a rule looks at. -/
def SeesSame (config other : Config) : Rule → Prop
  | bindAddress => config.listener.bindAddress = other.listener.bindAddress
  | path => config.graphql.path = other.graphql.path
  | bodyLimit => config.graphql.bodyLimit = other.graphql.bodyLimit
  | requestSeconds => config.timeouts.requestSeconds = other.timeouts.requestSeconds
  | metricsAddress =>
      config.observability.metricsEnabled = other.observability.metricsEnabled ∧
        config.observability.metricsAddress = other.observability.metricsAddress

variable {config other : Config} {rule : Rule}

theorem mem_broken_iff : rule ∈ broken config ↔ ¬rule.KeptBy config := by
  have listed : rule ∈ inOrder := by
    cases rule <;> decide
  simp [broken, listed]

theorem broken_eq_nil_iff : broken config = [] ↔ ∀ rule : Rule, rule.KeptBy config := by
  simp only [List.eq_nil_iff_forall_not_mem, mem_broken_iff, not_not]

/-- Different rules are told of differently. -/
theorem problem_injective (config : Config) : Function.Injective (problem config) := by
  intro first second same
  cases first <;> cases second <;> simp [problem] at same ⊢

theorem SeesSame.keptBy_iff (same : rule.SeesSame config other) : rule.KeptBy config ↔ rule.KeptBy other := by
  cases rule with
  | bindAddress | path | bodyLimit | requestSeconds =>
      simp only [SeesSame] at same
      simp only [KeptBy, same]
  | metricsAddress =>
      obtain ⟨enabled, address⟩ := same
      simp only [KeptBy, enabled, address]

theorem SeesSame.problem_eq (same : rule.SeesSame config other) : rule.problem config = rule.problem other := by
  cases rule with
  | bindAddress | path =>
      simp only [SeesSame] at same
      simp only [problem, same]
  | bodyLimit | requestSeconds => rfl
  | metricsAddress => simp only [problem, same.2]

end Rule

/-! ## Problems -/

/-- What one check tells: nothing if its rule is kept. -/
theorem unlessHolds_eq {config : Config} {rule : Rule} {holds : Bool} (kept : holds = true ↔ rule.KeptBy config) :
    unlessHolds holds (rule.problem config) =
      ([rule].filter fun rule => ¬rule.KeptBy config).map (Rule.problem config) := by
  cases holds with
  | true => simp [unlessHolds, kept.mp rfl]
  | false =>
      have broken : ¬rule.KeptBy config := fun keeps => Bool.false_ne_true (kept.mpr keeps)
      simp [unlessHolds, broken]

/-- The problems of a configuration are its broken rules, in order, each told of once. -/
theorem problems_eq (config : Config) : problems config = (Rule.broken config).map (Rule.problem config) := by
  have bindAddress := @unlessHolds_eq config .bindAddress _ isAddress_iff
  have path := @unlessHolds_eq config .path _ isRooted_iff
  have bodyLimit := @unlessHolds_eq config .bodyLimit _ bne_zero_iff
  have requestSeconds := @unlessHolds_eq config .requestSeconds _ bne_zero_iff
  have enabled : (!config.observability.metricsEnabled || isAddress config.observability.metricsAddress) = true ↔
      Rule.KeptBy config .metricsAddress := by
    rw [Bool.or_eq_true, Bool.not_eq_true', isAddress_iff, ← Bool.not_eq_true]
    exact Decidable.imp_iff_not_or.symm
  have metricsAddress := unlessHolds_eq enabled
  have parts : Rule.inOrder =
      [.bindAddress] ++ [.path] ++ [.bodyLimit] ++ [.requestSeconds] ++ [.metricsAddress] := rfl
  simp only [Rule.problem] at bindAddress path bodyLimit requestSeconds metricsAddress
  rw [problems, bindAddress, path, bodyLimit, requestSeconds, metricsAddress, Rule.broken, parts]
  simp only [List.filter_append, List.map_append]

theorem isValid_iff {config : Config} : IsValid config ↔ ∀ rule : Rule, rule.KeptBy config := by
  rw [← problems_eq_nil_iff, problems_eq, List.map_eq_nil_iff, Rule.broken_eq_nil_iff]

theorem problem_mem_iff {config : Config} {rule : Rule} :
    rule.problem config ∈ problems config ↔ ¬rule.KeptBy config := by
  rw [problems_eq, List.mem_map_of_injective (Rule.problem_injective config), Rule.mem_broken_iff]

/-- The check of a configuration lets it through, or tells all its problems. -/
theorem check_eq_error_iff {config : Config} {fault : LoadFault} :
    check config = .error fault ↔ ¬IsValid config ∧ fault = .invalid (problems config) := by
  rw [← problems_eq_nil_iff]
  unfold check
  split
  · next none => simp [none]
  · next first others some => simp [some, eq_comm]

/-- A text that writes no configuration is not told of as one with problems. -/
theorem ofText_ne_invalid {text : String} {found : List Problem} : ofText text ≠ .error (.invalid found) := by
  unfold ofText
  split
  · exact nofun
  · split
    · exact nofun
    · exact nofun

/-- Loading tells of problems exactly if a text could be read that writes a configuration with these problems. -/
theorem load_eq_invalid_iff {source : Source} {found : List Problem} :
    load source = .error (.invalid found) ↔
      ∃ text config, source.read = .ok text ∧ ofText text = .ok config ∧ ¬IsValid config ∧ found = problems config := by
  unfold load
  constructor
  · intro refused
    split at refused
    · cases refused
    next text read =>
      cases written : ofText text with
      | error fault =>
          rw [written] at refused
          exact absurd (written.trans (congrArg Except.error (Except.error.inj refused))) ofText_ne_invalid
      | ok config =>
          rw [written] at refused
          obtain ⟨invalid, same⟩ := check_eq_error_iff.mp refused
          exact ⟨text, config, read, written, invalid, LoadFault.invalid.inj same⟩
  · rintro ⟨text, config, read, written, invalid, rfl⟩
    rw [read]
    dsimp only
    rw [written]
    exact check_eq_error_iff.mpr ⟨invalid, rfl⟩

/-- The texts of the problems of a configuration are joined in the order of its broken rules. -/
theorem message_of_broken (config : Config) :
    (LoadFault.invalid (problems config)).message = "Validation failed: " ++
      ", ".intercalate ((Rule.broken config).map fun rule => (rule.problem config).message) := by
  show problemsMessage (problems config) = _
  unfold problemsMessage
  rw [problems_eq, List.map_map]
  congr 1

/-- A configuration passes its check exactly if it keeps every rule, and otherwise it is told of each broken rule once,
in the order of the rules, with the value at fault; whether a rule is told of, and how, depends on nothing but the part
that the rule looks at.  What is loaded from a source keeps every rule; and loading tells of problems exactly if the
source writes a configuration that breaks a rule, of all its broken rules and of nothing else, their texts being joined
in order. -/
theorem problems_are_broken_rules (config : Config) (source : Source) :
    (check config = .ok config ↔ ∀ rule : Rule, rule.KeptBy config) ∧
    ((∃ rule : Rule, ¬rule.KeptBy config) →
      check config = .error (.invalid ((Rule.broken config).map (Rule.problem config)))) ∧
    (∀ (other : Config) (rule : Rule), rule.SeesSame config other →
      (rule.problem config ∈ problems config ↔ rule.problem config ∈ problems other)) ∧
    (∀ loaded, load source = .ok loaded → ∀ rule : Rule, rule.KeptBy loaded) ∧
    ∀ found, load source = .error (.invalid found) ↔
      ∃ text written, source.read = .ok text ∧ ofText text = .ok written ∧ (∃ rule : Rule, ¬rule.KeptBy written) ∧
        found = (Rule.broken written).map (Rule.problem written) ∧
        (LoadFault.invalid found).message = "Validation failed: " ++
          ", ".intercalate ((Rule.broken written).map fun rule => (rule.problem written).message) := by
  refine ⟨?_, fun breaks => ?_, fun other rule same => ?_, fun loaded done => ?_, fun found => ?_⟩
  · rw [check_eq_ok_iff, isValid_iff, and_iff_right rfl]
  · rw [← problems_eq]
    exact check_eq_error_iff.mpr ⟨by rwa [isValid_iff, not_forall], rfl⟩
  · rw [problem_mem_iff, same.problem_eq, problem_mem_iff, same.keptBy_iff]
  · exact isValid_iff.mp (isValid_of_load done)
  · rw [load_eq_invalid_iff]
    constructor
    · rintro ⟨text, written, read, writes, invalid, rfl⟩
      rw [isValid_iff, not_forall] at invalid
      exact ⟨text, written, read, writes, invalid, problems_eq written, message_of_broken written⟩
    · rintro ⟨text, written, read, writes, breaks, same, -⟩
      exact ⟨text, written, read, writes, by rwa [isValid_iff, not_forall], same.trans (problems_eq written).symm⟩

/-- A configuration that breaks every rule. -/
def lawless : Config := ⟨⟨"localhost"⟩, ⟨"graphql", false, 0⟩, ⟨0⟩, ⟨"info", true, "nowhere"⟩⟩

/-- A text of a configuration that breaks two rules; without metrics their address breaks none. -/
def twoFaults : String :=
  "timeouts.request_secs = 0\ngraphql.path = 'a'\nobservability.metrics_address = 'b'"

/-- The configuration that this text writes. -/
def withTwoFaults : Config :=
  { Config.standard with
    graphql := ⟨"a", false, 2097152⟩, timeouts := ⟨0⟩, observability := ⟨"info", false, "b"⟩ }

theorem faults_told_in_order :
    check lawless = .error (.invalid [.invalidAddress "listener.bind_address" "localhost", .invalidPath "graphql",
      .zeroBodyLimit, .zeroTimeout, .invalidAddress "observability.metrics_address" "nowhere"]) ∧
    load (.file (Bytes.ofString twoFaults)) = .error (.invalid [.invalidPath "a", .zeroTimeout]) := by
  obtain ⟨-, told, -, -, loads⟩ := problems_are_broken_rules lawless (.file (Bytes.ofString twoFaults))
  have all : (Rule.broken lawless).map (Rule.problem lawless) =
      [.invalidAddress "listener.bind_address" "localhost", .invalidPath "graphql", .zeroBodyLimit, .zeroTimeout,
        .invalidAddress "observability.metrics_address" "nowhere"] := by
    decide +kernel
  have two : (Rule.broken withTwoFaults).map (Rule.problem withTwoFaults) = [.invalidPath "a", .zeroTimeout] := by
    decide +kernel
  have read : (Source.file (Bytes.ofString twoFaults)).read = .ok twoFaults := by
    decide +kernel
  have writes : ofText twoFaults = .ok withTwoFaults := by
    decide +kernel
  refine ⟨?_, (loads _).mpr ⟨twoFaults, withTwoFaults, read, writes, ⟨.path, by decide⟩, two.symm, ?_⟩⟩
  · rw [← all]
    exact told ⟨.bodyLimit, by decide⟩
  · rw [← two]
    exact message_of_broken withTwoFaults

end QueryGateway.Config
