import QueryGateway.Config.Validation
import QueryGateway.Host.Refusal
import QueryGateway.Toml.Parser

/-!
# Loading a configuration

A configuration is loaded from a file: the file must be readable UTF-8, a TOML text of the right shape, and
the configuration in it valid.
Main statement: a configuration that is loaded keeps every rule.
-/

namespace QueryGateway.Config

open Shape

/-- What reading at a path of the file system gives. -/
inductive Source where
  | refused (refusal : Host.Refusal)
  | file (octets : Bytes)
  deriving DecidableEq, Repr

/-- Why a file cannot be read. -/
inductive FileFault where
  | refused (refusal : Host.Refusal)
  | notText
  deriving DecidableEq, Repr

/-- Why a configuration cannot be loaded. -/
inductive LoadFault where
  | unreadable (fault : FileFault)
  | notToml
  /-- A part of a text is not of the right shape. -/
  | misfit (text : String) (cause : Misfit)
  | invalid (problems : List Problem)
  deriving DecidableEq, Repr

/-- The text of a file fault. -/
def FileFault.message : FileFault → String
  | .refused refusal => refusal.message
  | .notText => "stream did not contain valid UTF-8"

/-- The texts of problems, in order. -/
def problemsMessage (problems : List Problem) : String :=
  "Validation failed: " ++ ", ".intercalate (problems.map Problem.message)

/-- The text of a load fault; what the grammar of TOML refuses is told without a reason. -/
def LoadFault.message : LoadFault → String
  | .unreadable fault => "IO error: " ++ fault.message
  | .notToml => "Parse error"
  | .misfit _ cause => cause.mismatch.message
  | .invalid problems => problemsMessage problems

/-- The text of a source. -/
def Source.read : Source → Except FileFault String
  | .refused refusal => .error (.refused refusal)
  | .file octets =>
    match octets.toString? with
    | some text => .ok text
    | none => .error .notText

/-- The configuration that a text writes, valid or not. -/
def ofText (text : String) : Except LoadFault Config :=
  match Toml.parse? text with
  | none => .error .notToml
  | some document =>
    match (shape : TreeReader Toml Config).run document with
    | .ok config => .ok config
    | .error cause => .error (.misfit text cause)

/-- A configuration without problems. -/
def check (config : Config) : Except LoadFault Config :=
  match problems config with
  | [] => .ok config
  | problem :: more => .error (.invalid (problem :: more))

/-- The configuration in a source. -/
def load (source : Source) : Except LoadFault Config :=
  match source.read with
  | .error fault => .error (.unreadable fault)
  | .ok text => do
    let config ← ofText text
    check config

theorem check_eq_ok_iff {config checked : Config} :
    check config = .ok checked ↔ config = checked ∧ IsValid config := by
  rw [← problems_eq_nil_iff]
  unfold check
  split
  · rename_i h
    simp [h]
  · rename_i h
    simp [h]

theorem isValid_of_load {source : Source} {config : Config} (h : load source = .ok config) :
    IsValid config := by
  unfold load at h
  split at h
  · cases h
  · cases ht : ofText _ with
    | error fault => rw [ht] at h; cases h
    | ok read =>
      rw [ht] at h
      obtain ⟨rfl, hv⟩ := check_eq_ok_iff.1 h
      exact hv

end QueryGateway.Config
