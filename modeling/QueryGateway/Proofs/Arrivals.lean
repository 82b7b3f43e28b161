import QueryGateway.Http.Body
import Mathlib.Tactic.Common

/-!
# What a body amounts to

What a client sends as a body arrives in chunks, and may stop on the way or be too long.  `Arrives` says what a
body amounts to without saying how it is put together, and `Body.collect` computes just that.
-/

namespace QueryGateway

namespace Http

/-- As many octets may be read. -/
def Within (limit : Option Nat) (count : Nat) : Prop := ∀ room, limit = some room → count ≤ room

/-- What a body amounts to when it is read up to a limit: all its octets, or what stops the reading first. -/
inductive Arrives (limit : Option Nat) : Body → Except BodyFault Bytes → Prop
  | whole {parts : List Bytes} (fits : Within limit parts.flatten.length) :
      Arrives limit (parts.map .data) (.ok parts.flatten)
  | tooLarge {parts : List Bytes} {octets : Bytes} {rest : Body}
      (fits : Within limit parts.flatten.length)
      (beyond : ¬Within limit (parts.flatten.length + octets.length)) :
      Arrives limit (parts.map .data ++ .data octets :: rest) (.error .tooLarge)
  | broken {parts : List Bytes} {message : String} {rest : Body}
      (fits : Within limit parts.flatten.length) :
      Arrives limit (parts.map .data ++ .failure message :: rest) (.error (.broken message))

variable {limit : Option Nat} {octets : Bytes} {body : Body}

theorem within_add {first more : Nat} :
    Within limit (first + more) ↔ Within limit first ∧ Within (limit.map (· - first)) more := by
  cases limit with
  | none => exact ⟨fun _ => ⟨nofun, nofun⟩, fun _ => nofun⟩
  | some room =>
      simp only [Within, Option.map_some, Option.some.injEq, forall_eq']
      omega

theorem Arrives.cons {result : Except BodyFault Bytes} (fits : Within limit octets.length)
    (arrives : Arrives (limit.map (· - octets.length)) body result) :
    Arrives limit (.data octets :: body) (result.map (octets ++ ·)) := by
  have extend {parts : List Bytes}
      (fitsRest : Within (limit.map (· - octets.length)) parts.flatten.length) :
      Within limit (octets :: parts).flatten.length := by
    rw [List.flatten_cons, List.length_append]
    exact within_add.mpr ⟨fits, fitsRest⟩
  cases arrives with
  | @whole parts fitsRest => exact @Arrives.whole limit (octets :: parts) (extend fitsRest)
  | @tooLarge parts more rest fitsRest beyond =>
      refine @Arrives.tooLarge limit (octets :: parts) more rest (extend fitsRest) ?_
      rw [List.flatten_cons, List.length_append, Nat.add_assoc]
      exact fun all => beyond (within_add.mp all).2
  | @broken parts message rest fitsRest =>
      exact @Arrives.broken limit (octets :: parts) message rest (extend fitsRest)

theorem Body.collect_cons (fits : Within limit octets.length) :
    Body.collect limit (.data octets :: body) =
      (Body.collect (limit.map (· - octets.length)) body).map (octets ++ ·) := by
  cases limit with
  | none => rfl
  | some room => exact if_neg (Nat.not_lt.mpr (fits room rfl))

theorem Body.collect_cons_of_beyond (beyond : ¬Within limit octets.length) :
    Body.collect limit (.data octets :: body) = .error .tooLarge := by
  cases limit with
  | none => exact absurd (fun _ absent => nomatch absent) beyond
  | some room =>
      refine if_pos (Nat.not_le.mp fun fits => beyond ?_)
      rintro _ ⟨⟩
      exact fits

/-- What a body is collected to is what it amounts to. -/
theorem arrives_collect (limit : Option Nat) (body : Body) :
    Arrives limit body (Body.collect limit body) := by
  have nothing : Within limit ([] : List Bytes).flatten.length := fun _ _ => Nat.zero_le _
  induction body generalizing limit with
  | nil =>
      rw [Body.collect]
      exact @Arrives.whole limit [] nothing
  | cons chunk body ih =>
      cases chunk with
      | failure message =>
          rw [Body.collect]
          exact @Arrives.broken limit [] message body nothing
      | data octets =>
          by_cases fits : Within limit octets.length
          · rw [Body.collect_cons fits]
            exact .cons fits (ih _ fun _ _ => Nat.zero_le _)
          · rw [Body.collect_cons_of_beyond fits]
            refine @Arrives.tooLarge limit [] octets body nothing ?_
            rw [List.flatten_nil, List.length_nil, Nat.zero_add]
            exact fits

/-- Octets that arrived before the end of a body are the beginning of what it is collected to. -/
theorem Body.collect_append {parts : List Bytes} (fits : Within limit parts.flatten.length) :
    Body.collect limit (parts.map .data ++ body) =
      (Body.collect (limit.map (· - parts.flatten.length)) body).map (parts.flatten ++ ·) := by
  induction parts generalizing limit with
  | nil =>
      have room : limit.map (· - ([] : List Bytes).flatten.length) = limit := Option.map_id' ..
      rw [room, List.map_nil, List.nil_append]
      cases Body.collect limit body <;> rfl
  | cons part parts ih =>
      rw [List.flatten_cons, List.length_append] at fits ⊢
      obtain ⟨fitsPart, fitsRest⟩ := within_add.mp fits
      rw [List.map_cons, List.cons_append, collect_cons fitsPart, ih fitsRest, Option.map_map]
      have room : ((· - parts.flatten.length) ∘ fun room => room - part.length) =
          fun room => room - (part.length + parts.flatten.length) := by
        funext room
        exact Nat.sub_sub ..
      rw [room]
      cases Body.collect _ body with
      | error fault => rfl
      | ok octets => exact congrArg Except.ok (List.append_assoc ..).symm

/-- Without a limit, a body that arrives at once arrives whole. -/
theorem arrives_whole (octets : Bytes) : Arrives none (.whole octets) (.ok octets) := by
  have whole := @Arrives.whole none [octets] nofun
  rwa [List.flatten_singleton] at whole

theorem collect_of_arrives {result : Except BodyFault Bytes} (arrives : Arrives limit body result) :
    Body.collect limit body = result := by
  cases arrives with
  | @whole parts fits =>
      have all := @Body.collect_append limit [] parts fits
      rw [List.append_nil] at all
      rw [all, Body.collect]
      exact congrArg Except.ok (List.append_nil _)
  | @tooLarge parts octets rest fits beyond =>
      rw [Body.collect_append fits, Body.collect_cons_of_beyond fun more => beyond (within_add.mpr ⟨fits, more⟩)]
      rfl
  | @broken parts message rest fits =>
      rw [Body.collect_append fits, Body.collect]
      rfl

end Http

end QueryGateway
