import QueryGateway.Text.Utf8

/-!
# Message bodies

A body arrives in chunks and may fail on the way.  `Body.collect` puts it together under a limit.
Main statements: a body within the limit is the concatenation of its chunks however it is cut, and a body
that is collected is never longer than the limit.
-/

namespace QueryGateway.Http

/-- What arrives next of a body: octets, or a failure of the connection. -/
inductive Chunk where
  | data (octets : Bytes)
  | failure (message : String)
  deriving DecidableEq, Repr

/-- A body as it arrives. -/
abbrev Body := List Chunk

/-- Why a body cannot be put together. -/
inductive BodyFault where
  | tooLarge
  | broken (message : String)
  deriving DecidableEq, Repr

namespace Body

/-- The body that arrives whole. -/
def whole (octets : Bytes) : Body := [.data octets]

/-- All octets of a body of which `room` octets may still arrive; without `room` there is no limit. -/
def collect : Option Nat → Body → Except BodyFault Bytes
  | _, [] => .ok []
  | _, .failure message :: _ => .error (.broken message)
  | none, .data octets :: chunks => (collect none chunks).map (octets ++ ·)
  | some room, .data octets :: chunks =>
    if room < octets.length then .error .tooLarge
    else (collect (some (room - octets.length)) chunks).map (octets ++ ·)

/-- The octets of all chunks. -/
def octets (body : Body) : Bytes :=
  body.flatMap fun
    | .data octets => octets
    | .failure _ => []

theorem length_of_collect {room : Nat} {body : Body} {bs : Bytes}
    (h : collect (some room) body = .ok bs) : bs.length ≤ room := by
  induction body generalizing room bs with
  | nil => cases h; simp
  | cons chunk body ih =>
    cases chunk with
    | failure message => cases h
    | data octets =>
      rw [collect] at h
      split at h
      · cases h
      · cases hc : collect (some (room - octets.length)) body with
        | error fault => rw [hc] at h; cases h
        | ok more =>
          rw [hc] at h
          cases h
          have := ih hc
          simp only [List.length_append]
          omega

theorem collect_map_data {room : Nat} {parts : List Bytes} (h : parts.flatten.length ≤ room) :
    collect (some room) (parts.map .data) = .ok parts.flatten := by
  induction parts generalizing room with
  | nil => rfl
  | cons part parts ih =>
    simp only [List.flatten_cons, List.length_append] at h
    rw [List.map_cons, collect, if_neg (by omega), ih (by omega)]
    rfl

end Body

end QueryGateway.Http
