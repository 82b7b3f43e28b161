import QueryGateway.Proofs.Documents

/-!
# Documents that are read

The converse of what `Proofs.Documents` says: what is read from octets is the value of a document of which they are the
text.  Every reader takes what the grammar writes and leaves the rest; by induction on the fuel, a value that is read
has been put together by the grammar from parts that were read before.
Main statement: `parse_eq_ok_iff`.
-/

namespace QueryGateway.Json

open Shape (bind_eq_ok)

/-! ## Separators -/

section

variable {n : Nat} {part : Part} {bs after rest : Bytes}

theorem textThen_skipBlanks (bs : Bytes) : TextThen AllBlank bs (skipBlanks bs) :=
  ⟨_, fun _ => List.mem_takeWhile_imp, List.takeWhile_append_dropWhile.symm⟩

theorem Written.after_blanks {blanks : Bytes} (all : AllBlank blanks) (written : Written n part bs) :
    Written n part (blanks ++ bs) := by
  induction blanks with
  | nil => exact written
  | cons b blanks ih =>
      obtain ⟨blank, all⟩ := List.forall_mem_cons.mp all
      exact .blank blank (ih all)

/-- Blanks may stand before the text of a part. -/
theorem TextThen.of_skipBlanks (split : TextThen (Written n part) (skipBlanks bs) rest) :
    TextThen (Written n part) bs rest := by
  obtain ⟨text, written, same⟩ := split
  obtain ⟨blanks, all, before⟩ := textThen_skipBlanks bs
  exact ⟨blanks ++ text, written.after_blanks all, by rw [List.append_assoc, ← same, ← before]⟩

theorem TextThen.endsNumber (split : TextThen (Written n part) bs rest) (inside : part.IsInside) :
    EndsNumber bs := by
  obtain ⟨text, written, rfl⟩ := split
  exact written.endsNumber inside rest

theorem textThen_of_firstItem_done (done : firstItem bs = .ok (.done rest)) :
    TextThen (Written (n + 1) (.value (.array []))) (0x5B :: bs) rest := by
  obtain ⟨blanks, all, same⟩ := textThen_skipBlanks bs
  unfold firstItem at done
  split at done
  · next starts =>
    cases done
    exact ⟨_, .emptyArray all, by rw [same, starts, List.cons_append, List.append_assoc]; rfl⟩
  · cases done
  · cases done

theorem eq_of_firstItem_more (done : firstItem bs = .ok (.more after)) : after = skipBlanks bs := by
  unfold firstItem at done
  split at done
  · cases done
  · cases done
  · cases done
    rfl

theorem textThen_of_nextItem_done (done : nextItem bs = .ok (.done rest)) :
    TextThen (Written n (.items [])) bs rest := by
  refine .of_skipBlanks ⟨_, .lastItem, ?_⟩
  unfold nextItem at done
  split at done
  · next starts =>
    cases done
    exact starts
  · split at done <;> cases done
  · cases done
  · cases done

theorem exists_of_nextItem_more (done : nextItem bs = .ok (.more after)) :
    ∃ more, skipBlanks bs = 0x2C :: more ∧ after = skipBlanks more := by
  unfold nextItem at done
  split at done
  · cases done
  · next more starts =>
    split at done
    · cases done
    · cases done
    · cases done
      exact ⟨more, starts, rfl⟩
  · cases done
  · cases done

theorem textThen_of_firstMember_done (done : firstMember bs = .ok (.done rest)) :
    TextThen (Written (n + 1) (.value (.object []))) (0x7B :: bs) rest := by
  obtain ⟨blanks, all, same⟩ := textThen_skipBlanks bs
  unfold firstMember at done
  split at done
  · next starts =>
    cases done
    exact ⟨_, .emptyObject all, by rw [same, starts, List.cons_append, List.append_assoc]; rfl⟩
  · cases done
  · cases done
  · cases done

theorem eq_of_firstMember_more (done : firstMember bs = .ok (.more after)) : skipBlanks bs = 0x22 :: after := by
  unfold firstMember at done
  split at done
  · cases done
  · next starts =>
    cases done
    exact starts
  · cases done
  · cases done

theorem textThen_of_nextMember_done (done : nextMember bs = .ok (.done rest)) :
    TextThen (Written n (.members [])) bs rest := by
  refine .of_skipBlanks ⟨_, .lastMember, ?_⟩
  unfold nextMember at done
  split at done
  · next starts =>
    cases done
    exact starts
  · split at done <;> cases done
  · cases done
  · cases done

theorem exists_of_nextMember_more (done : nextMember bs = .ok (.more after)) :
    ∃ more, skipBlanks bs = 0x2C :: more ∧ skipBlanks more = 0x22 :: after := by
  unfold nextMember at done
  split at done
  · cases done
  · next more starts =>
    split at done
    · next quotes =>
      cases done
      exact ⟨more, starts, quotes⟩
    · cases done
    · cases done
    · cases done
  · cases done
  · cases done

theorem textThen_of_closeObject (done : closeObject bs = .ok rest) : TextThen (Written n (.members [])) bs rest := by
  refine .of_skipBlanks ⟨_, .lastMember, ?_⟩
  unfold closeObject at done
  split at done
  · next starts =>
    cases done
    exact starts
  · cases done
  · cases done
  · cases done

theorem skipBlanks_of_readColon (done : readColon bs = .ok rest) : skipBlanks bs = 0x3A :: rest := by
  unfold readColon at done
  split at done
  · next starts =>
    cases done
    exact starts
  · cases done
  · cases done

/-- A name is read after its opening quote, up to its colon. -/
theorem textThen_of_readName {name : String} (quotes : skipBlanks bs = 0x22 :: after)
    (done : readName after = .ok (name, rest)) : TextThen (NameText name) bs rest := by
  obtain ⟨⟨name, between⟩, nameRead, done⟩ := bind_eq_ok done
  obtain ⟨left, colon, done⟩ := bind_eq_ok done
  cases done
  obtain ⟨text, quoted, rfl⟩ := textThen_of_readString nameRead
  obtain ⟨leading, allLeading, before⟩ := textThen_skipBlanks bs
  obtain ⟨trailing, allTrailing, inside⟩ := textThen_skipBlanks between
  refine ⟨_, .intro allLeading quoted allTrailing, ?_⟩
  rw [before, quotes, inside, skipBlanks_of_readColon colon]
  simp only [List.append_assoc, List.cons_append, List.nil_append]

theorem textThen_of_expectString {expected s : String} (done : expectString expected bs = .ok (s, rest)) :
    TextThen (Written n (.value (.string s))) bs rest := by
  unfold expectString at done
  split at done
  · next starts =>
    obtain ⟨text, quoted, rfl⟩ := textThen_of_readString done
    exact .of_skipBlanks ⟨_, .string quoted, starts⟩
  · have none := @toOption_unexpectedValue (String × Bytes) expected (skipBlanks bs)
    rw [done] at none
    cases none

/-! ## Parts put together -/

theorem textThen_array {first : Document} {others : List Document}
    (item : TextThen (Written n (.value first)) bs after) (items : TextThen (Written n (.items others)) after rest) :
    TextThen (Written (n + 1) (.value (.array (first :: others)))) (0x5B :: bs) rest := by
  obtain ⟨text, item, rfl⟩ := item
  obtain ⟨more, items, rfl⟩ := items
  exact ⟨_, .array item items, by rw [List.cons_append, List.append_assoc]⟩

theorem textThen_item {next : Document} {others : List Document} {more : Bytes} (comma : skipBlanks bs = 0x2C :: more)
    (item : TextThen (Written n (.value next)) more after) (items : TextThen (Written n (.items others)) after rest) :
    TextThen (Written n (.items (next :: others))) bs rest := by
  obtain ⟨text, item, rfl⟩ := item
  obtain ⟨last, items, rfl⟩ := items
  exact .of_skipBlanks ⟨_, .item item items, by rw [comma, List.cons_append, List.append_assoc]⟩

variable {name : String} {others : List (String × Document)} {inside : Bytes}

theorem textThen_object {first : Document} (named : TextThen (NameText name) bs after)
    (value : TextThen (Written n (.value first)) after inside)
    (members : TextThen (Written n (.members others)) inside rest) :
    TextThen (Written (n + 1) (.value (.object ((name, first) :: others)))) (0x7B :: bs) rest := by
  obtain ⟨nameText, named, rfl⟩ := named
  obtain ⟨text, value, rfl⟩ := value
  obtain ⟨more, members, rfl⟩ := members
  exact ⟨_, .object named value members, by simp only [List.cons_append, List.append_assoc]⟩

theorem textThen_member {next : Document} {more : Bytes} (comma : skipBlanks bs = 0x2C :: more)
    (named : TextThen (NameText name) more after) (value : TextThen (Written n (.value next)) after inside)
    (members : TextThen (Written n (.members others)) inside rest) :
    TextThen (Written n (.members ((name, next) :: others))) bs rest := by
  obtain ⟨nameText, named, rfl⟩ := named
  obtain ⟨text, value, rfl⟩ := value
  obtain ⟨last, members, rfl⟩ := members
  refine .of_skipBlanks ⟨_, .member named value members, ?_⟩
  rw [comma]
  simp only [List.cons_append, List.append_assoc]

/-- A number that is read stands for itself, as long as no more of it follows. -/
theorem exists_numeral {negative : Bool} {number : Number} (done : readNumber negative bs = .ok (number, rest))
    (ends : EndsNumber rest) :
    ∃ digits, Numeral digits ∧ bs = digits ++ rest ∧
      (Document.number negative digits).value? = some (.number number) := by
  obtain ⟨digits, numeral, rfl⟩ := textThen_of_readNumber done
  have alone := numeral.toOption_readNumber negative ends
  rw [done] at alone
  obtain ⟨⟨read, left⟩, given, same⟩ := Option.map_eq_some_iff.mp alone.symm
  refine ⟨digits, numeral, rfl, ?_⟩
  rw [Document.value?, given]
  exact congrArg (fun pair => some (Json.number (Prod.fst pair))) same

/-- What is read inside a string is what the object around the string stands for. -/
theorem value?_embedded {fuel : Nat} {written : String} {value : Json}
    (enough : (Bytes.ofString written).length + 1 < fuel)
    (done : readWhole fuel (Bytes.ofString written) = .ok value) :
    (Document.object [(embeddedName, .string written)]).value? = some value := by
  rw [Document.value?, if_pos rfl]
  show (parse (Bytes.ofString written)).toOption = some value
  rw [toOption_parse, ← readWhole_eq enough, done]
  rfl

end

/-! ## Values -/

/-- With `fuel`, what is read from fewer octets is what the grammar writes. -/
structure ReadsWritten (fuel : Nat) : Prop where
  value : ∀ {n : Nat} {bs rest : Bytes} {value : Json}, bs.length < fuel → EndsNumber rest →
    readValue true fuel (n + 1) bs = .ok (value, rest) →
    ∃ document, TextThen (Written n (.value document)) bs rest ∧ document.value? = some value
  items : ∀ {n : Nat} {bs rest : Bytes} {values : List Json}, bs.length < fuel →
    readItems true fuel (n + 1) bs = .ok (values, rest) →
    ∃ items, TextThen (Written n (.items items)) bs rest ∧ Document.itemValues? items = some values
  members : ∀ {n : Nat} {bs rest : Bytes} {before values : Members}, bs.length < fuel →
    readMembers true fuel (n + 1) before bs = .ok (values, rest) →
    ∃ members, TextThen (Written n (.members members)) bs rest ∧ Document.memberValues? before members = some values

namespace ReadsWritten

variable {fuel n : Nat} {bs rest : Bytes}

theorem zero : ReadsWritten 0 where
  value enough := absurd enough (Nat.not_lt_zero _)
  items enough := absurd enough (Nat.not_lt_zero _)
  members enough := absurd enough (Nat.not_lt_zero _)

/-- A list after its opening bracket. -/
theorem array (less : ReadsWritten fuel) {value : Json} (enough : bs.length < fuel)
    (done : (do
      match ← firstItem bs with
      | .done rest => .ok (.array [], rest)
      | .more rest =>
        let (first, rest) ← readValue true fuel (n + 1) rest
        let (items, rest) ← readItems true fuel (n + 1) rest
        .ok (.array (first :: items), rest) : Reading (Json × Bytes)) = .ok (value, rest)) :
    ∃ document, TextThen (Written (n + 1) (.value document)) (0x5B :: bs) rest ∧ document.value? = some value := by
  obtain ⟨continuation, begins, done⟩ := bind_eq_ok done
  cases continuation with
  | done after =>
      cases done
      exact ⟨_, textThen_of_firstItem_done begins, rfl⟩
  | more after =>
      obtain ⟨⟨first, between⟩, firstRead, done⟩ := bind_eq_ok done
      obtain ⟨⟨others, left⟩, othersRead, done⟩ := bind_eq_ok done
      cases done
      have room : after.length < fuel := Nat.lt_of_le_of_lt (length_firstItem begins) enough
      have shorter : between.length < fuel := Nat.lt_of_le_of_lt ((shortens fuel).value firstRead) room
      obtain ⟨items, itemsText, itemsOf⟩ := less.items shorter othersRead
      obtain ⟨document, text, valueOf⟩ := less.value room (itemsText.endsNumber trivial) firstRead
      obtain rfl := eq_of_firstItem_more begins
      refine ⟨_, textThen_array text.of_skipBlanks itemsText, ?_⟩
      rw [Document.value?, Document.itemValues?, valueOf, itemsOf]
      rfl

/-- An object after its opening brace. -/
theorem object (less : ReadsWritten fuel) {value : Json} (enough : bs.length < fuel)
    (done : (do
      match ← firstMember bs with
      | .done rest => .ok (.object [], rest)
      | .more rest =>
        let (name, rest) ← readName rest
        if true && name = embeddedName then
          let (written, rest) ← expectString "raw value" rest
          let inner := Bytes.ofString written
          match readWhole fuel inner with
          | .error failure => .error (.settled (failure.error inner))
          | .ok value =>
            let rest ← closeObject rest
            .ok (value, rest)
        else
          let (value, rest) ← readValue true fuel (n + 1) rest
          let (members, rest) ← readMembers true fuel (n + 1) [(name, value)] rest
          .ok (.object members, rest) : Reading (Json × Bytes)) = .ok (value, rest)) :
    ∃ document, TextThen (Written (n + 1) (.value document)) (0x7B :: bs) rest ∧ document.value? = some value := by
  obtain ⟨continuation, begins, done⟩ := bind_eq_ok done
  cases continuation with
  | done after =>
      cases done
      exact ⟨_, textThen_of_firstMember_done begins, rfl⟩
  | more after =>
      obtain ⟨⟨name, between⟩, nameRead, done⟩ := bind_eq_ok done
      have named := textThen_of_readName (eq_of_firstMember_more begins) nameRead
      have room : between.length + 1 < fuel := by
        have : after.length < bs.length := length_firstMember begins
        have := length_readName nameRead
        omega
      dsimp only at done
      split at done
      · next embedded =>
        obtain rfl : name = embeddedName := by simpa using embedded
        obtain ⟨⟨written, inside⟩, stringRead, done⟩ := bind_eq_ok done
        have shorter := length_expectString stringRead
        dsimp only at done
        split at done
        · cases done
        · next innerRead =>
          obtain ⟨left, closed, done⟩ := bind_eq_ok done
          cases done
          exact ⟨_, textThen_object named (textThen_of_expectString stringRead) (textThen_of_closeObject closed),
            value?_embedded (by omega) innerRead⟩
      · next ordinary =>
        have notEmbedded : name ≠ embeddedName := by simpa using ordinary
        obtain ⟨⟨first, inside⟩, firstRead, done⟩ := bind_eq_ok done
        obtain ⟨⟨others, left⟩, othersRead, done⟩ := bind_eq_ok done
        cases done
        have enough : between.length < fuel := Nat.lt_of_succ_lt room
        have shorter : inside.length < fuel := Nat.lt_of_le_of_lt ((shortens fuel).value firstRead) enough
        obtain ⟨members, membersText, membersOf⟩ := less.members shorter othersRead
        obtain ⟨document, text, valueOf⟩ := less.value enough (membersText.endsNumber trivial) firstRead
        refine ⟨_, textThen_object named text membersText, ?_⟩
        rw [Document.value?, if_neg notEmbedded, valueOf, Option.bind_some, membersOf]
        rfl

theorem value_succ (less : ReadsWritten fuel) {value : Json} (enough : bs.length < fuel + 1) (ends : EndsNumber rest)
    (done : readValue true (fuel + 1) (n + 1) bs = .ok (value, rest)) :
    ∃ document, TextThen (Written n (.value document)) bs rest ∧ document.value? = some value := by
  have skipped {document : Document} (text : TextThen (Written n (.value document)) (skipBlanks bs) rest)
      (stands : document.value? = some value) :
      ∃ document, TextThen (Written n (.value document)) bs rest ∧ document.value? = some value :=
    ⟨document, text.of_skipBlanks, stands⟩
  unfold readValue at done
  split at done
  · cases done
  · next starts =>
    obtain ⟨_, read, done⟩ := bind_eq_ok done
    cases done
    exact skipped ⟨_, .nullWord, starts.trans (congrArg _ (eq_append_of_readWord read))⟩ rfl
  · next starts =>
    obtain ⟨_, read, done⟩ := bind_eq_ok done
    cases done
    exact skipped ⟨_, .trueWord, starts.trans (congrArg _ (eq_append_of_readWord read))⟩ rfl
  · next starts =>
    obtain ⟨_, read, done⟩ := bind_eq_ok done
    cases done
    exact skipped ⟨_, .falseWord, starts.trans (congrArg _ (eq_append_of_readWord read))⟩ rfl
  · next starts =>
    obtain ⟨_, read, done⟩ := bind_eq_ok done
    cases done
    obtain ⟨digits, numeral, rfl, stands⟩ := exists_numeral read ends
    exact skipped ⟨_, .negative numeral, starts⟩ stands
  · next starts =>
    obtain ⟨_, read, done⟩ := bind_eq_ok done
    cases done
    obtain ⟨text, quoted, rfl⟩ := textThen_of_readString read
    exact skipped ⟨_, .string quoted, starts⟩ rfl
  · next starts =>
    have start := length_of_skipBlanks starts
    split at done
    · cases done
    · next deep =>
      obtain ⟨n, rfl⟩ := Nat.exists_eq_add_one_of_ne_zero (show n ≠ 0 by omega)
      obtain ⟨document, text, stands⟩ := less.array (by omega) done
      exact skipped (starts ▸ text) stands
  · next starts =>
    have start := length_of_skipBlanks starts
    split at done
    · cases done
    · next deep =>
      obtain ⟨n, rfl⟩ := Nat.exists_eq_add_one_of_ne_zero (show n ≠ 0 by omega)
      obtain ⟨document, text, stands⟩ := less.object (by omega) done
      exact skipped (starts ▸ text) stands
  · next starts =>
    split at done
    · obtain ⟨_, read, done⟩ := bind_eq_ok done
      cases done
      obtain ⟨digits, numeral, same, stands⟩ := exists_numeral read ends
      exact skipped ⟨_, .positive numeral, starts.trans same⟩ stands
    · cases done

theorem items_succ (less : ReadsWritten fuel) {values : List Json} (enough : bs.length < fuel + 1)
    (done : readItems true (fuel + 1) (n + 1) bs = .ok (values, rest)) :
    ∃ items, TextThen (Written n (.items items)) bs rest ∧ Document.itemValues? items = some values := by
  unfold readItems at done
  obtain ⟨continuation, next, done⟩ := bind_eq_ok done
  have left := length_nextItem next
  cases continuation with
  | done after =>
      cases done
      exact ⟨[], textThen_of_nextItem_done next, rfl⟩
  | more after =>
      obtain ⟨⟨first, between⟩, firstRead, done⟩ := bind_eq_ok done
      obtain ⟨⟨others, last⟩, othersRead, done⟩ := bind_eq_ok done
      cases done
      have room : after.length < fuel := Nat.lt_of_lt_of_le left (Nat.le_of_lt_succ enough)
      have shorter : between.length < fuel := Nat.lt_of_le_of_lt ((shortens fuel).value firstRead) room
      obtain ⟨items, itemsText, itemsOf⟩ := less.items shorter othersRead
      obtain ⟨document, text, valueOf⟩ := less.value room (itemsText.endsNumber trivial) firstRead
      obtain ⟨more, comma, rfl⟩ := exists_of_nextItem_more next
      refine ⟨document :: items, textThen_item comma text.of_skipBlanks itemsText, ?_⟩
      rw [Document.itemValues?, valueOf, itemsOf]
      rfl

theorem members_succ (less : ReadsWritten fuel) {before values : Members} (enough : bs.length < fuel + 1)
    (done : readMembers true (fuel + 1) (n + 1) before bs = .ok (values, rest)) :
    ∃ members, TextThen (Written n (.members members)) bs rest ∧
      Document.memberValues? before members = some values := by
  unfold readMembers at done
  obtain ⟨continuation, next, done⟩ := bind_eq_ok done
  have left := length_nextMember next
  cases continuation with
  | done after =>
      cases done
      exact ⟨[], textThen_of_nextMember_done next, rfl⟩
  | more after =>
      obtain ⟨⟨name, between⟩, nameRead, done⟩ := bind_eq_ok done
      obtain ⟨⟨first, inside⟩, firstRead, done⟩ := bind_eq_ok done
      have room : between.length < fuel := by
        have : after.length < bs.length := left
        have := length_readName nameRead
        omega
      have shorter : inside.length < fuel := Nat.lt_of_le_of_lt ((shortens fuel).value firstRead) room
      obtain ⟨members, membersText, membersOf⟩ := less.members shorter done
      obtain ⟨document, text, valueOf⟩ := less.value room (membersText.endsNumber trivial) firstRead
      obtain ⟨more, comma, quotes⟩ := exists_of_nextMember_more next
      refine ⟨(name, document) :: members,
        textThen_member comma (textThen_of_readName quotes nameRead) text membersText, ?_⟩
      rw [Document.memberValues?, valueOf]
      exact membersOf

end ReadsWritten

/-- Whatever the fuel, what is read from fewer octets is what the grammar writes. -/
theorem readsWritten (fuel : Nat) : ReadsWritten fuel := by
  induction fuel with
  | zero => exact .zero
  | succ fuel less => exact ⟨less.value_succ, less.items_succ, less.members_succ⟩

/-! ## Whole texts -/

theorem allBlank_of_readEnd {bs : Bytes} (done : readEnd bs = .ok ()) : AllBlank bs := by
  obtain ⟨blanks, all, same⟩ := textThen_skipBlanks bs
  unfold readEnd at done
  split at done
  · next ends =>
    rw [ends, List.append_nil] at same
    rwa [same]
  · cases done

theorem AllBlank.endsNumber {blanks : Bytes} (all : AllBlank blanks) : EndsNumber blanks := by
  cases blanks with
  | nil => exact endsNumber_nil
  | cons b blanks => exact endsNumber_of_blank (all b List.mem_cons_self) blanks

/-- Octets are the text of a document that is not nested too deep and stands for a value. -/
def HasText (value : Json) (bs : Bytes) : Prop :=
  ∃ n < depthLimit, ∃ document, TextOf n document bs ∧ document.value? = some value

/-- A value is read from octets exactly if they are a text of it. -/
theorem parse_eq_ok_iff {bs : Bytes} {value : Json} : parse bs = .ok value ↔ value.HasText bs := by
  constructor
  · intro done
    rw [← toOption_eq_some, toOption_parse, fuelFor, toOption_eq_some, readWhole] at done
    obtain ⟨⟨read, rest⟩, valueRead, done⟩ := bind_eq_ok done
    obtain ⟨_, ended, done⟩ := bind_eq_ok done
    cases done
    have after := allBlank_of_readEnd ended
    obtain ⟨document, ⟨text, written, rfl⟩, stands⟩ :=
      (readsWritten _).value (Nat.lt_succ_self _) after.endsNumber valueRead
    exact ⟨127, by decide, document, .intro written after, stands⟩
  · rintro ⟨n, shallow, document, text, stands⟩
    rw [← toOption_eq_some, text.toOption_parse shallow, stands]

end QueryGateway.Json
