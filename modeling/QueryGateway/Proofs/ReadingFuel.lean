import QueryGateway.Proofs.ReadTokens

/-!
# The fuel of the readers

The readers of values recurse on a fuel.  No reader gives back more octets than it was given, so a fuel that
exceeds the octets is never used up, and how much it exceeds them does not matter.
-/

namespace QueryGateway.Json

open Shape (bind_eq_ok)

/-! ## What readers give back -/

section

variable {bs rest : Bytes}

theorem length_skipBlanks_le (bs : Bytes) : (skipBlanks bs).length ≤ bs.length :=
  (List.dropWhile_suffix _).length_le

theorem length_of_skipBlanks {b : UInt8} (starts : skipBlanks bs = b :: rest) : rest.length < bs.length := by
  have length := length_skipBlanks_le bs
  rw [starts, List.length_cons] at length
  omega

theorem length_readWord {word : Bytes} (done : readWord word bs = .ok rest) : rest.length ≤ bs.length := by
  rw [eq_append_of_readWord done, List.length_append]
  exact Nat.le_add_left _ _

/-- What a string stands for and what follows it are together shorter than what was read. -/
theorem length_readString {s : String} (done : readString bs = .ok (s, rest)) :
    (Bytes.ofString s).length + rest.length < bs.length := by
  obtain ⟨text, quoted, rfl⟩ := textThen_of_readString done
  have shorter : (Bytes.ofString s).length < text.length := quoted.length_encode_lt
  rw [List.length_append]
  omega

/-! ### Separators -/

/-- A value of a kind that is not expected is never read. -/
theorem toOption_unexpectedValue {α : Type} (expected : String) (bs : Bytes) :
    (unexpectedValue expected bs : Reading α).toOption = none := by
  have bindNone {β : Type} (first : Reading β) (mismatch : β → Shape.Mismatch) (rest : β → Bytes) :
      (first >>= fun b => (mismatchHere (mismatch b) (rest b) : Reading α)).toOption = none := by
    cases first <;> rfl
  unfold unexpectedValue
  split
  case h_9 =>
    split
    · exact bindNone _ _ _
    · rfl
  all_goals first
    | rfl
    | exact bindNone _ _ _

theorem toOption_eq_some {ε α : Type} {first : Except ε α} {a : α} :
    first.toOption = some a ↔ first = .ok a := by
  cases first with
  | error e => exact ⟨nofun, nofun⟩
  | ok b => exact ⟨fun same => congrArg Except.ok (Option.some.inj same), fun same => by rw [same]; rfl⟩

/-- The octets that a continuation leaves. -/
def Continuation.left : Continuation → Bytes
  | .more bs => bs
  | .done rest => rest

variable {continuation : Continuation}

theorem length_firstItem (done : firstItem bs = .ok continuation) :
    continuation.left.length ≤ bs.length := by
  unfold firstItem at done
  split at done
  · next starts =>
    cases done
    exact Nat.le_of_lt (length_of_skipBlanks starts)
  · cases done
  · cases done
    exact length_skipBlanks_le bs

theorem length_nextItem (done : nextItem bs = .ok continuation) :
    continuation.left.length < bs.length := by
  unfold nextItem at done
  split at done
  · next starts =>
    cases done
    exact length_of_skipBlanks starts
  · next after starts =>
    have shorter := length_of_skipBlanks starts
    split at done
    · cases done
    · cases done
    · cases done
      exact Nat.lt_of_le_of_lt (length_skipBlanks_le after) shorter
  · cases done
  · cases done

theorem length_firstMember (done : firstMember bs = .ok continuation) :
    continuation.left.length < bs.length := by
  unfold firstMember at done
  split at done
  · next starts =>
    cases done
    exact length_of_skipBlanks starts
  · next starts =>
    cases done
    exact length_of_skipBlanks starts
  · cases done
  · cases done

theorem length_nextMember (done : nextMember bs = .ok continuation) :
    continuation.left.length < bs.length := by
  unfold nextMember at done
  split at done
  · next starts =>
    cases done
    exact length_of_skipBlanks starts
  · next after starts =>
    have shorter := length_of_skipBlanks starts
    split at done
    · next quotes =>
      cases done
      exact Nat.lt_trans (length_of_skipBlanks quotes) shorter
    · cases done
    · cases done
    · cases done
  · cases done
  · cases done

theorem length_readColon (done : readColon bs = .ok rest) : rest.length ≤ bs.length := by
  unfold readColon at done
  split at done
  · next starts =>
    cases done
    exact Nat.le_of_lt (length_of_skipBlanks starts)
  · cases done
  · cases done

theorem length_readName {name : String} (done : readName bs = .ok (name, rest)) :
    rest.length ≤ bs.length := by
  obtain ⟨⟨name, after⟩, nameRead, done⟩ := bind_eq_ok done
  obtain ⟨after, colon, done⟩ := bind_eq_ok done
  cases done
  have shorter := length_readString nameRead
  have afterColon := length_readColon colon
  omega

theorem length_closeObject (done : closeObject bs = .ok rest) : rest.length ≤ bs.length := by
  unfold closeObject at done
  split at done
  · next starts =>
    cases done
    exact Nat.le_of_lt (length_of_skipBlanks starts)
  · cases done
  · cases done
  · cases done

theorem length_expectString {expected s : String} (done : expectString expected bs = .ok (s, rest)) :
    (Bytes.ofString s).length + rest.length < bs.length := by
  unfold expectString at done
  split at done
  · next starts =>
    have shorter := length_readString done
    have start := length_of_skipBlanks starts
    omega
  · have none := @toOption_unexpectedValue (String × Bytes) expected (skipBlanks bs)
    rw [done] at none
    cases none

end

/-! ### Values -/

/-- With `fuel`, no reader gives back more octets than it was given. -/
structure Shortens (fuel : Nat) : Prop where
  value : ∀ {embeds : Bool} {depth : Nat} {bs rest : Bytes} {value : Json},
    readValue embeds fuel depth bs = .ok (value, rest) → rest.length ≤ bs.length
  items : ∀ {embeds : Bool} {depth : Nat} {bs rest : Bytes} {items : List Json},
    readItems embeds fuel depth bs = .ok (items, rest) → rest.length ≤ bs.length
  members : ∀ {embeds : Bool} {depth : Nat} {bs rest : Bytes} {before after : Members},
    readMembers embeds fuel depth before bs = .ok (after, rest) → rest.length ≤ bs.length

namespace Shortens

variable {fuel : Nat}

theorem zero : Shortens 0 where
  value done := by cases done
  items done := by cases done
  members done := by cases done

theorem value_succ (less : Shortens fuel) {embeds : Bool} {depth : Nat} {bs rest : Bytes} {value : Json}
    (done : readValue embeds (fuel + 1) depth bs = .ok (value, rest)) : rest.length ≤ bs.length := by
  unfold readValue at done
  split at done
  · cases done
  · next starts =>
    obtain ⟨_, read, done⟩ := bind_eq_ok done
    cases done
    exact Nat.le_trans (length_readWord read) (Nat.le_of_lt (length_of_skipBlanks starts))
  · next starts =>
    obtain ⟨_, read, done⟩ := bind_eq_ok done
    cases done
    exact Nat.le_trans (length_readWord read) (Nat.le_of_lt (length_of_skipBlanks starts))
  · next starts =>
    obtain ⟨_, read, done⟩ := bind_eq_ok done
    cases done
    exact Nat.le_trans (length_readWord read) (Nat.le_of_lt (length_of_skipBlanks starts))
  · next starts =>
    obtain ⟨_, read, done⟩ := bind_eq_ok done
    cases done
    exact Nat.le_trans (textThen_of_readNumber read).length_le (Nat.le_of_lt (length_of_skipBlanks starts))
  · next starts =>
    obtain ⟨_, read, done⟩ := bind_eq_ok done
    cases done
    have shorter := length_readString read
    have start := length_of_skipBlanks starts
    omega
  · next starts =>
    have start := length_of_skipBlanks starts
    split at done
    · cases done
    · obtain ⟨continuation, first, done⟩ := bind_eq_ok done
      have left := length_firstItem first
      cases continuation with
      | done after =>
          cases done
          exact Nat.le_trans left (Nat.le_of_lt start)
      | more after =>
          obtain ⟨⟨_, between⟩, valueRead, done⟩ := bind_eq_ok done
          obtain ⟨⟨_, after⟩, itemsRead, done⟩ := bind_eq_ok done
          cases done
          exact Nat.le_trans (less.items itemsRead)
            (Nat.le_trans (less.value valueRead) (Nat.le_trans left (Nat.le_of_lt start)))
  · next starts =>
    have start := length_of_skipBlanks starts
    split at done
    · cases done
    · obtain ⟨continuation, first, done⟩ := bind_eq_ok done
      have left := length_firstMember first
      cases continuation with
      | done after =>
          cases done
          exact Nat.le_of_lt (Nat.lt_trans left start)
      | more after =>
          obtain ⟨⟨name, between⟩, nameRead, done⟩ := bind_eq_ok done
          have afterName : between.length ≤ bs.length :=
            Nat.le_trans (length_readName nameRead) (Nat.le_of_lt (Nat.lt_trans left start))
          dsimp only at done
          split at done
          · obtain ⟨⟨written, inside⟩, stringRead, done⟩ := bind_eq_ok done
            have afterString := length_expectString stringRead
            dsimp only at done
            split at done
            · cases done
            · obtain ⟨after, closed, done⟩ := bind_eq_ok done
              cases done
              have afterObject := length_closeObject closed
              omega
          · obtain ⟨⟨_, inside⟩, valueRead, done⟩ := bind_eq_ok done
            obtain ⟨⟨_, after⟩, membersRead, done⟩ := bind_eq_ok done
            cases done
            exact Nat.le_trans (less.members membersRead) (Nat.le_trans (less.value valueRead) afterName)
  · next starts =>
    split at done
    · obtain ⟨_, read, done⟩ := bind_eq_ok done
      cases done
      exact Nat.le_trans (textThen_of_readNumber read).length_le (starts ▸ length_skipBlanks_le bs)
    · cases done

theorem items_succ (less : Shortens fuel) {embeds : Bool} {depth : Nat} {bs rest : Bytes}
    {items : List Json} (done : readItems embeds (fuel + 1) depth bs = .ok (items, rest)) :
    rest.length ≤ bs.length := by
  unfold readItems at done
  obtain ⟨continuation, next, done⟩ := bind_eq_ok done
  have left := length_nextItem next
  cases continuation with
  | done after =>
      cases done
      exact Nat.le_of_lt left
  | more after =>
      obtain ⟨⟨_, between⟩, valueRead, done⟩ := bind_eq_ok done
      obtain ⟨⟨_, after⟩, itemsRead, done⟩ := bind_eq_ok done
      cases done
      exact Nat.le_trans (less.items itemsRead)
        (Nat.le_trans (less.value valueRead) (Nat.le_of_lt left))

theorem members_succ (less : Shortens fuel) {embeds : Bool} {depth : Nat} {bs rest : Bytes}
    {before after : Members}
    (done : readMembers embeds (fuel + 1) depth before bs = .ok (after, rest)) :
    rest.length ≤ bs.length := by
  unfold readMembers at done
  obtain ⟨continuation, next, done⟩ := bind_eq_ok done
  have left := length_nextMember next
  cases continuation with
  | done after =>
      cases done
      exact Nat.le_of_lt left
  | more after =>
      obtain ⟨⟨_, between⟩, nameRead, done⟩ := bind_eq_ok done
      obtain ⟨⟨_, inside⟩, valueRead, done⟩ := bind_eq_ok done
      exact Nat.le_trans (less.members done) (Nat.le_trans (less.value valueRead)
        (Nat.le_trans (length_readName nameRead) (Nat.le_of_lt left)))

end Shortens

/-- Whatever the fuel, no reader gives back more octets than it was given. -/
theorem shortens (fuel : Nat) : Shortens fuel := by
  induction fuel with
  | zero => exact .zero
  | succ fuel less => exact ⟨less.value_succ, less.items_succ, less.members_succ⟩

/-! ## More fuel than octets -/

theorem bind_congr_ok {ε α β : Type} {first : Except ε α} {f g : α → Except ε β}
    (same : ∀ a, first = .ok a → f a = g a) : (first >>= f) = (first >>= g) := by
  cases first with
  | error e => rfl
  | ok a => exact same a rfl

/-- With more `fuel` than octets, one unit more does not change what is read. -/
structure Ample (fuel : Nat) : Prop where
  value : ∀ {embeds : Bool} {depth : Nat} {bs : Bytes}, bs.length < fuel →
    readValue embeds (fuel + 1) depth bs = readValue embeds fuel depth bs
  items : ∀ {embeds : Bool} {depth : Nat} {bs : Bytes}, bs.length < fuel →
    readItems embeds (fuel + 1) depth bs = readItems embeds fuel depth bs
  members : ∀ {embeds : Bool} {depth : Nat} {before : Members} {bs : Bytes}, bs.length < fuel →
    readMembers embeds (fuel + 1) depth before bs = readMembers embeds fuel depth before bs
  whole : ∀ {bs : Bytes}, bs.length + 1 < fuel → readWhole (fuel + 1) bs = readWhole fuel bs

namespace Ample

variable {fuel : Nat}

theorem zero : Ample 0 where
  value enough := absurd enough (Nat.not_lt_zero _)
  items enough := absurd enough (Nat.not_lt_zero _)
  members enough := absurd enough (Nat.not_lt_zero _)
  whole enough := absurd enough (Nat.not_lt_zero _)

theorem value_succ (less : Ample fuel) {embeds : Bool} {depth : Nat} {bs : Bytes}
    (enough : bs.length < fuel + 1) :
    readValue embeds (fuel + 1 + 1) depth bs = readValue embeds (fuel + 1) depth bs := by
  unfold readValue
  split
  · rfl
  · rfl
  · rfl
  · rfl
  · rfl
  · rfl
  · next rest starts =>
    have start := length_of_skipBlanks starts
    split
    · rfl
    refine bind_congr_ok fun continuation first => ?_
    have left := length_firstItem first
    cases continuation with
    | done after => rfl
    | more after =>
        have room : after.length < fuel := by
          have : after.length ≤ rest.length := left
          omega
        dsimp only
        rw [less.value room]
        refine bind_congr_ok fun ⟨value, between⟩ read => ?_
        dsimp only
        rw [less.items (Nat.lt_of_le_of_lt ((shortens fuel).value read) room)]
  · next rest starts =>
    have start := length_of_skipBlanks starts
    split
    · rfl
    refine bind_congr_ok fun continuation first => ?_
    have left := length_firstMember first
    cases continuation with
    | done after => rfl
    | more after =>
        refine bind_congr_ok fun ⟨name, between⟩ nameRead => ?_
        have room : between.length + 1 < fuel := by
          have : after.length < rest.length := left
          have := length_readName nameRead
          omega
        dsimp only
        split
        · refine bind_congr_ok fun ⟨written, inside⟩ stringRead => ?_
          have shorter := length_expectString stringRead
          dsimp only
          rw [less.whole (by omega)]
        · rw [less.value (Nat.lt_of_succ_lt room)]
          refine bind_congr_ok fun ⟨value, inside⟩ read => ?_
          have shorter := (shortens fuel).value read
          dsimp only
          rw [less.members (by omega)]
  · rfl

theorem items_succ (less : Ample fuel) {embeds : Bool} {depth : Nat} {bs : Bytes}
    (enough : bs.length < fuel + 1) :
    readItems embeds (fuel + 1 + 1) depth bs = readItems embeds (fuel + 1) depth bs := by
  unfold readItems
  refine bind_congr_ok fun continuation next => ?_
  have left := length_nextItem next
  cases continuation with
  | done after => rfl
  | more after =>
      have room : after.length < fuel := by
        have : after.length < bs.length := left
        omega
      dsimp only
      rw [less.value room]
      refine bind_congr_ok fun ⟨value, between⟩ read => ?_
      dsimp only
      rw [less.items (Nat.lt_of_le_of_lt ((shortens fuel).value read) room)]

theorem members_succ (less : Ample fuel) {embeds : Bool} {depth : Nat} {before : Members} {bs : Bytes}
    (enough : bs.length < fuel + 1) :
    readMembers embeds (fuel + 1 + 1) depth before bs =
      readMembers embeds (fuel + 1) depth before bs := by
  unfold readMembers
  refine bind_congr_ok fun continuation next => ?_
  have left := length_nextMember next
  cases continuation with
  | done after => rfl
  | more after =>
      refine bind_congr_ok fun ⟨name, between⟩ nameRead => ?_
      have room : between.length < fuel := by
        have : after.length < bs.length := left
        have := length_readName nameRead
        omega
      dsimp only
      rw [less.value room]
      refine bind_congr_ok fun ⟨value, inside⟩ read => ?_
      dsimp only
      rw [less.members (Nat.lt_of_le_of_lt ((shortens fuel).value read) room)]

theorem whole_succ (less : Ample fuel) {bs : Bytes} (enough : bs.length + 1 < fuel + 1) :
    readWhole (fuel + 1 + 1) bs = readWhole (fuel + 1) bs := by
  unfold readWhole
  rw [less.value (Nat.lt_of_succ_lt_succ enough)]

end Ample

theorem ample (fuel : Nat) : Ample fuel := by
  induction fuel with
  | zero => exact .zero
  | succ fuel less => exact ⟨less.value_succ, less.items_succ, less.members_succ, less.whole_succ⟩

/-- A whole text is read in the same way with every fuel that exceeds it. -/
theorem readWhole_eq {fuel : Nat} {bs : Bytes} (enough : bs.length + 1 < fuel) :
    readWhole fuel bs = readWhole (fuelFor bs) bs := by
  obtain ⟨more, rfl⟩ := Nat.exists_eq_add_of_le (show fuelFor bs ≤ fuel from enough)
  induction more with
  | zero => rfl
  | succ more ih =>
      have room : bs.length + 1 < fuelFor bs + more := by
        unfold fuelFor
        omega
      rw [← ih room]
      exact (ample _).whole room

end QueryGateway.Json
