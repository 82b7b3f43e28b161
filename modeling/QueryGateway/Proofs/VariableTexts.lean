import QueryGateway.GraphQL.UrlParameters
import QueryGateway.Proofs.ReadDocuments
import QueryGateway.Proofs.ShapedTexts

/-!
# Variables in texts

Where an object is expected, a text gives the members that it writes: an object is read from it exactly if it is the
text of one.  Variables in a target are given in this way.
Main statement: `UrlParameters.variableValues_eq_ok_iff`.
-/

namespace QueryGateway

namespace Json

open Shape

/-! ## Texts of objects -/

section

variable {n : Nat} {members : List (String × Document)} {bs : Bytes}

theorem run_members_of_blank {b : UInt8} (blank : isBlankOctet b = true) (depth : Nat) (bs : Bytes) :
    TextReader.members.run depth (b :: bs) = TextReader.members.run depth bs := by
  unfold TextReader.members
  dsimp only
  rw [skipBlanks_of_blank blank]

theorem run_members_of_brace {depth : Nat} (shallow : 1 < depth) (bs : Bytes) :
    TextReader.members.run depth (0x7B :: bs) = TextReader.firstMembers (depth - 1) bs := by
  unfold TextReader.members
  dsimp only
  rw [skipBlanks_of_not rfl]
  exact if_neg (Nat.not_le.mpr shallow)

/-- Where an object is expected, the text of an object gives the members that it stands for. -/
theorem Written.toOption_run_members (written : Written n (.value (.object members)) bs) {depth : Nat}
    (shallow : n < depth) (rest : Bytes) :
    (TextReader.members.run depth (bs ++ rest)).toOption =
      (Document.memberValues? [] members).map (·, rest) := by
  have enough (more rest : Bytes) : more.length < fuelFor (more ++ rest) := by
    rw [fuelFor, List.length_append]
    omega
  generalize same : Part.value (.object members) = part at written
  induction written with
  | blank blank _ ih => exact (congrArg _ (run_members_of_blank blank _ _)).trans (ih shallow same)
  | @emptyObject n blanks between =>
      cases same
      have closed : firstMember (blanks ++ [0x7D] ++ rest) = .ok (.done rest) := by
        rw [firstMember, List.append_assoc, skipBlanks_append between]
        rfl
      rw [List.cons_append, run_members_of_brace (by omega), TextReader.firstMembers, closed]
      rfl
  | @object n name first others nameText bs more named value written =>
      cases same
      obtain ⟨quoted, firstMember, -, nameRead⟩ := named.reads
      have valueReads : ReadsValue n first bs := value.reads
      have membersRead : ReadsMembers n others more := written.reads
      rw [List.cons_append, List.append_assoc, List.append_assoc, run_members_of_brace (by omega),
        TextReader.firstMembers, firstMember, Document.memberValues?]
      show (readName (quoted ++ (bs ++ (more ++ rest))) >>= _ : Reading _).toOption = _
      rw [nameRead]
      show (readValue true (fuelFor (bs ++ (more ++ rest))) (depth - 1) (bs ++ (more ++ rest)) >>= _ :
        Reading _).toOption = _
      rw [toOption_bind, valueReads (enough bs (more ++ rest)) (by omega) (written.endsNumber trivial rest)]
      cases first.value? with
      | none => rfl
      | some value => exact membersRead (enough more rest) (by omega)
  | nullWord | trueWord | falseWord | positive | negative | string | emptyArray | array | lastItem | item
  | lastMember | member => cases same

end

/-- The whole text of an object gives the members that the object stands for. -/
theorem TextOf.toOption_parse_members {n : Nat} {members : List (String × Document)} {bs : Bytes}
    (text : TextOf n (.object members) bs) (shallow : n < depthLimit) :
    (TextReader.parse JsonFormat.members bs).toOption = Document.memberValues? [] members := by
  obtain @⟨bs, blanks, written, after⟩ := text
  rw [toOption_parse_textReader]
  show (TextReader.members.run depthLimit (bs ++ blanks)).toOption.bind _ = _
  rw [written.toOption_run_members shallow]
  cases Document.memberValues? [] members with
  | none => rfl
  | some values =>
      show (readEnd blanks).toOption.map _ = _
      rw [readEnd_of_allBlank after]
      rfl

/-- What is read after an opening brace, where an object is expected, are the members of an object. -/
theorem exists_of_firstMembers {n : Nat} {bs rest : Bytes} {values : Members}
    (done : TextReader.firstMembers (n + 1) bs = .ok (values, rest)) :
    ∃ members, TextThen (Written (n + 1) (.value (.object members))) (0x7B :: bs) rest ∧
      Document.memberValues? [] members = some values := by
  have enough (bs : Bytes) : bs.length < fuelFor bs := Nat.lt_add_of_pos_right Nat.two_pos
  obtain ⟨continuation, begins, done⟩ := bind_eq_ok done
  cases continuation with
  | done after =>
      cases done
      exact ⟨[], textThen_of_firstMember_done begins, rfl⟩
  | more after =>
      obtain ⟨⟨name, between⟩, nameRead, done⟩ := bind_eq_ok done
      obtain ⟨⟨first, inside⟩, firstRead, done⟩ := bind_eq_ok done
      have named := textThen_of_readName (eq_of_firstMember_more begins) nameRead
      obtain ⟨others, othersText, othersOf⟩ := (readsWritten _).members (enough inside) done
      obtain ⟨document, text, valueOf⟩ :=
        (readsWritten _).value (enough between) (othersText.endsNumber trivial) firstRead
      refine ⟨(name, document) :: others, textThen_object named text othersText, ?_⟩
      rw [Document.memberValues?, valueOf]
      exact othersOf

/-- A text is read as an object exactly if it is that of an object that is not nested too deep and stands for it. -/
theorem parse_members_eq_ok_iff {bs : Bytes} {values : Members} :
    TextReader.parse JsonFormat.members bs = .ok values ↔
      ∃ n < depthLimit, ∃ members, TextOf n (.object members) bs ∧
        Document.memberValues? [] members = some values := by
  constructor
  · intro done
    rw [← toOption_eq_some, toOption_parse_textReader] at done
    obtain ⟨⟨read, rest⟩, run, done⟩ := Option.bind_eq_some_iff.mp done
    obtain ⟨_, ended, rfl⟩ := Option.map_eq_some_iff.mp done
    have run : TextReader.members.run depthLimit bs = .ok (read, rest) := toOption_eq_some.mp run
    unfold TextReader.members at run
    dsimp only at run
    split at run
    · next starts =>
      rw [if_neg (by decide)] at run
      obtain ⟨members, text, stands⟩ := exists_of_firstMembers run
      obtain ⟨text, written, rfl⟩ := TextThen.of_skipBlanks (starts ▸ text)
      exact ⟨127, by decide, members, .intro written (allBlank_of_readEnd (toOption_eq_some.mp ended)), stands⟩
    · have none := @toOption_unexpectedValue (Members × Bytes) "a map" (skipBlanks bs)
      rw [run] at none
      cases none
  · rintro ⟨n, shallow, members, text, stands⟩
    rw [← toOption_eq_some, text.toOption_parse_members shallow, stands]

end Json

namespace GraphQL

/-! ## Variables -/

/-- The text of a parameter, if there is one, gives variables. -/
inductive GivesVariables : Option String → Option Members → Prop
  | absent : GivesVariables none none
  | object {n : Nat} {text : String} {members : List (String × Document)} {values : Members}
      (shallow : n < Json.depthLimit) (writes : Json.TextOf n (.object members) (Bytes.ofString text))
      (stands : Document.memberValues? [] members = some values) : GivesVariables (some text) (some values)

/-- The variables of a target are those that the text of a parameter gives. -/
theorem UrlParameters.variableValues_eq_ok_iff {parameters : UrlParameters} {values : Option Members} :
    parameters.variableValues = .ok values ↔ GivesVariables parameters.variablesText values := by
  unfold variableValues
  constructor
  · intro done
    split at done
    · next absent =>
      cases done
      rw [absent]
      exact .absent
    · next text given =>
      split at done
      · next members read =>
        cases done
        obtain ⟨n, shallow, members, writes, stands⟩ := Json.parse_members_eq_ok_iff.mp read
        rw [given]
        exact .object shallow writes stands
      · cases done
  · intro gives
    generalize parameters.variablesText = text at gives
    cases gives with
    | absent => rfl
    | object shallow writes stands => simp only [Json.parse_members_eq_ok_iff.mpr ⟨_, shallow, _, writes, stands⟩]

end GraphQL

end QueryGateway
