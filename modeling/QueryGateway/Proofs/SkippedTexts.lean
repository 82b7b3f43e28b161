import QueryGateway.Proofs.Documents

/-!
# Values that are passed over

A value of which nothing is kept is passed over to its last octet, however deep it is nested and whatever its numbers
and strings stand for.
-/

namespace QueryGateway.Json

/-! ## Strings -/

theorem skipString_quote (bs : Bytes) : skipString (0x22 :: bs) = .ok bs := by
  rw [skipString.eq_def]
  rfl

theorem skipString_escape (e : UInt8) (more : Bytes) :
    skipString (0x5C :: e :: more) =
      if e = 0x75 then do
        let _ ← readHex more
        skipString (more.drop 4)
      else if e ∈ [0x22, 0x5C, 0x2F, 0x62, 0x66, 0x6E, 0x72, 0x74] then skipString more
      else faultHere .invalidEscape more := by
  rw [skipString.eq_def]
  rfl

theorem skipString_append {octets : Bytes} (plain : ∀ b ∈ octets, b ≠ 0x22 ∧ b ≠ 0x5C ∧ ¬b.toNat < 0x20)
    (more : Bytes) : skipString (octets ++ more) = skipString more := by
  induction octets with
  | nil => rfl
  | cons b octets ih =>
      obtain ⟨⟨notQuote, notBackslash, printable⟩, plain⟩ := List.forall_mem_cons.mp plain
      rw [← ih plain, List.cons_append, skipString.eq_def]
      simp only [if_neg notQuote, if_neg notBackslash, if_neg printable]

theorem CodeUnit.skipString_append {n : Nat} {bs : Bytes} (digits : CodeUnit n bs) (more : Bytes) :
    skipString (0x5C :: 0x75 :: (bs ++ more)) = skipString more := by
  rw [skipString_escape, if_pos rfl, digits.readHex_append, digits.drop_append]
  rfl

theorem Escape.skipString_append {c : Char} {octets : Bytes} (escaped : Escape c octets) (more : Bytes) :
    skipString (0x5C :: (octets ++ more)) = skipString more := by
  cases escaped with
  | letter listed =>
      simp only [letterEscapes, List.mem_cons, Prod.mk.injEq, List.not_mem_nil, or_false] at listed
      rcases listed with ⟨rfl, rfl⟩ | ⟨rfl, rfl⟩ | ⟨rfl, rfl⟩ | ⟨rfl, rfl⟩ | ⟨rfl, rfl⟩ | ⟨rfl, rfl⟩ |
        ⟨rfl, rfl⟩ | ⟨rfl, rfl⟩ <;> exact skipString_escape _ more
  | unit digits alone => exact digits.skipString_append more
  | pair leading highRange trailing lowRange =>
      rw [List.cons_append, List.append_assoc, List.cons_append, List.cons_append, leading.skipString_append,
        trailing.skipString_append]

theorem StringText.skipString_append {cs : List Char} {bs : Bytes} (text : StringText cs bs) (more : Bytes) :
    skipString (bs ++ more) = .ok more := by
  induction text with
  | close => exact skipString_quote more
  | ordinary itself _ ih => rw [List.append_assoc, Json.skipString_append itself.octets, ih]
  | escape escaped _ ih => rw [List.cons_append, List.append_assoc, escaped.skipString_append, ih]

/-! ## Numbers -/

section

variable {scale fraction more : Bytes}

theorem Sign.skipExponent_append {sign bs : Bytes} {down : Bool} (signed : Sign sign down) (digits : SomeDigits bs)
    (noDigit : startsWithDigit more = false) : skipExponent (sign ++ (bs ++ more)) = .ok more := by
  obtain ⟨b, others, rfl, digit, all⟩ := digits.eq_cons
  have skipped : (if isDigitOctet b then .ok ((others ++ more).dropWhile isDigitOctet)
      else faultHere .invalidNumber (others ++ more) : Reading Bytes) = .ok more := by
    rw [if_pos digit, all.dropWhile_append noDigit]
  cases signed with
  | plus | minus => exact skipped
  | absent =>
      rw [List.nil_append, List.cons_append]
      unfold skipExponent
      split
      · next plus =>
        obtain ⟨rfl, -⟩ := List.cons.inj plus
        cases digit
      · next minus =>
        obtain ⟨rfl, -⟩ := List.cons.inj minus
        cases digit
      · exact skipped

theorem Scale.skipScale_append (scaled : Scale scale) (ends : EndsNumber more) :
    skipScale (scale ++ more) = .ok more := by
  cases scaled with
  | absent =>
      rw [List.nil_append]
      unfold skipScale
      split
      · exact absurd rfl (endsNumber_cons.mp ends).2.2.1
      · exact absurd rfl (endsNumber_cons.mp ends).2.2.2
      · rfl
  | @digits mark sign bs down marked signed digits =>
      have skipped := signed.skipExponent_append digits ends.startsWithDigit
      rw [List.cons_append, List.append_assoc]
      rcases marked with rfl | rfl <;> exact skipped

/-- The octets after a number of which the digits before the point were passed over. -/
def skipFraction (bs : Bytes) : Reading Bytes :=
  match bs with
  | 0x2E :: more =>
    if startsWithDigit more then skipScale (more.dropWhile isDigitOctet) else faultNext .invalidNumber more
  | _ => skipScale bs

theorem Fraction.skipFraction_append (fractional : Fraction fraction) (scaled : Scale scale)
    (ends : EndsNumber more) : skipFraction (fraction ++ (scale ++ more)) = .ok more := by
  have skipped := scaled.skipScale_append ends
  cases fractional with
  | absent =>
      rw [List.nil_append]
      unfold skipFraction
      split
      · next point =>
        cases scaled with
        | absent =>
            rw [List.nil_append] at point
            subst point
            exact absurd rfl (endsNumber_cons.mp ends).2.1
        | digits marked => rcases marked with rfl | rfl <;> cases point
      · exact skipped
  | digits digits =>
      obtain ⟨b, others, rfl, digit, all⟩ := digits.eq_cons
      have starts : startsWithDigit (b :: others ++ (scale ++ more)) = true := digit
      rw [List.cons_append, skipFraction, if_pos starts,
        (allDigits_cons.mpr ⟨digit, all⟩).dropWhile_append (scaled.startsWithDigit_append ends), skipped]

theorem WholeDigits.eq_cons {whole : Bytes} (digits : WholeDigits whole) :
    ∃ b others, whole = b :: others ∧ isDigitOctet b = true ∧ AllDigits others ∧ (b = 0x30 → others = []) := by
  cases digits with
  | zero => exact ⟨0x30, [], rfl, rfl, allDigits_nil, fun _ => rfl⟩
  | other digit notZero digits => exact ⟨_, _, rfl, digit, digits, fun zero => absurd zero notZero⟩

theorem skipNumber_of_digit {b : UInt8} {bs : Bytes} (digit : isDigitOctet b = true)
    (alone : b = 0x30 → startsWithDigit bs = false) :
    skipNumber (b :: bs) = skipFraction (bs.dropWhile isDigitOctet) := by
  have noZeros : ¬(decide (b = 0x30) && startsWithDigit bs) = true := by
    rw [Bool.and_eq_true, decide_eq_true_eq]
    rintro ⟨zero, digits⟩
    rw [alone zero] at digits
    cases digits
  rw [skipNumber, digit, Bool.not_true, if_neg Bool.false_ne_true, if_neg noZeros]
  rfl

/-- A number is passed over, whatever does not go on with it. -/
theorem Numeral.skipNumber_append {bs : Bytes} (numeral : Numeral bs) (ends : EndsNumber more) :
    skipNumber (bs ++ more) = .ok more := by
  obtain @⟨whole, fraction, scale, digits, fractional, scaled⟩ := numeral
  obtain ⟨b, others, rfl, digit, all, alone⟩ := digits.eq_cons
  have noDigit := fractional.startsWithDigit_append scaled ends
  rw [List.append_assoc, List.cons_append, skipNumber_of_digit digit, all.dropWhile_append noDigit, List.append_assoc,
    fractional.skipFraction_append scaled ends]
  intro zero
  rw [alone zero, List.nil_append, noDigit]

end

/-! ## Values -/

section

variable {fuel : Nat} {b : UInt8}

theorem skipValue_of_digit (digit : isDigitOctet b = true) (bs : Bytes) :
    skipValue (fuel + 1) (b :: bs) = skipNumber (b :: bs) := by
  unfold skipValue
  rw [skipBlanks_of_not (isBlankOctet_of_digit digit)]
  split
  case h_9 starts =>
    cases starts
    rw [if_pos digit]
  all_goals
    next starts =>
    cases starts
    try cases digit

end

/-- The octets of a value are passed over, whatever follows them and does not go on with a number. -/
def SkipsValue (bs : Bytes) : Prop :=
  ∀ {fuel : Nat} {rest : Bytes}, bs.length < fuel → EndsNumber rest → skipValue fuel (bs ++ rest) = .ok rest

/-- The octets of items are passed over, whatever follows them. -/
def SkipsItems (bs : Bytes) : Prop :=
  ∀ {fuel : Nat} {rest : Bytes}, bs.length < fuel → skipItems fuel (bs ++ rest) = .ok rest

/-- The octets of members are passed over, whatever follows them. -/
def SkipsMembers (bs : Bytes) : Prop :=
  ∀ {fuel : Nat} {rest : Bytes}, bs.length < fuel → skipMembers fuel (bs ++ rest) = .ok rest

/-- The octets of a part are passed over. -/
def Part.Skips : Part → Bytes → Prop
  | .value _ => SkipsValue
  | .items _ => SkipsItems
  | .members _ => SkipsMembers

section

variable {n : Nat} {bs more : Bytes}

theorem Part.skips_blank {part : Part} {b : UInt8} (blank : isBlankOctet b = true) (skips : part.Skips bs) :
    part.Skips (b :: bs) := by
  cases part with
  | value document =>
      intro fuel rest enough ends
      rw [List.cons_append, skipValue_of_blank blank, skips (Nat.lt_of_succ_lt enough) ends]
  | items items =>
      intro fuel rest enough
      rw [List.cons_append, skipItems_of_blank blank, skips (Nat.lt_of_succ_lt enough)]
  | members members =>
      intro fuel rest enough
      rw [List.cons_append, skipMembers_of_blank blank, skips (Nat.lt_of_succ_lt enough)]

theorem skipsValue_positive (numeral : Numeral bs) : SkipsValue bs := by
  intro fuel rest enough ends
  have skipped := numeral.skipNumber_append ends
  obtain ⟨b, after, rfl, digit⟩ := numeral.eq_cons
  obtain ⟨fuel, rfl⟩ := fuel_eq_succ enough
  rw [List.cons_append] at skipped ⊢
  rw [skipValue_of_digit digit, skipped]

theorem skipsValue_negative (numeral : Numeral bs) : SkipsValue (0x2D :: bs) := by
  intro fuel rest enough ends
  obtain ⟨fuel, rfl⟩ := fuel_eq_succ enough
  rw [List.cons_append, skipValue, skipBlanks_of_not rfl]
  exact numeral.skipNumber_append ends

theorem skipsValue_string {cs : List Char} (quoted : StringText cs bs) : SkipsValue (0x22 :: bs) := by
  intro fuel rest enough ends
  obtain ⟨fuel, rfl⟩ := fuel_eq_succ enough
  rw [List.cons_append, skipValue, skipBlanks_of_not rfl]
  exact quoted.skipString_append rest

theorem skipsValue_emptyArray {blanks : Bytes} (between : AllBlank blanks) :
    SkipsValue (0x5B :: (blanks ++ [0x5D])) := by
  intro fuel rest enough ends
  obtain ⟨fuel, rfl⟩ := fuel_eq_succ enough
  rw [List.cons_append, skipValue, skipBlanks_of_not rfl]
  simp only
  rw [List.append_assoc, skipBlanks_append between]
  rfl

theorem skipsValue_emptyObject {blanks : Bytes} (between : AllBlank blanks) :
    SkipsValue (0x7B :: (blanks ++ [0x7D])) := by
  intro fuel rest enough ends
  obtain ⟨fuel, rfl⟩ := fuel_eq_succ enough
  rw [List.cons_append, skipValue, skipBlanks_of_not rfl]
  simp only
  rw [List.append_assoc, skipBlanks_append between]
  rfl

/-- A value is passed over, and then what follows it. -/
theorem skipValue_bind {fuel : Nat} {rest : Bytes} {skipMore : Bytes → Reading Bytes} (value : SkipsValue bs)
    (ends : EndsNumber (more ++ rest)) (enough : bs.length < fuel) (others : skipMore (more ++ rest) = .ok rest) :
    skipValue fuel (bs ++ (more ++ rest)) >>= skipMore = .ok rest := by
  rw [value enough ends]
  exact others

theorem skipsValue_array {first : Document} {others : List Document} (item : Written n (.value first) bs)
    (items : Written n (.items others) more) (itemSkips : SkipsValue bs) (itemsSkip : SkipsItems more) :
    SkipsValue (0x5B :: (bs ++ more)) := by
  intro fuel rest enough ends
  obtain ⟨fuel, rfl⟩ := fuel_eq_succ enough
  obtain ⟨b, after, starts⟩ := item.starts
  rw [List.length_cons, List.length_append] at enough
  have skipped := skipValue_bind itemSkips (items.endsNumber trivial rest) (show bs.length < fuel by omega)
    (itemsSkip (show more.length < fuel by omega))
  rw [← skipValue_skipBlanks] at skipped
  rw [List.cons_append, List.append_assoc, skipValue, skipBlanks_of_not rfl]
  simp only [starts.skipped] at skipped ⊢
  split
  · next closes => exact absurd (List.cons.inj closes).1 starts.notClosing
  · next ends => cases ends
  · exact skipped

theorem skipsItems_item {others : List Document} (items : Written n (.items others) more) (itemSkips : SkipsValue bs)
    (itemsSkip : SkipsItems more) : SkipsItems (0x2C :: (bs ++ more)) := by
  intro fuel rest enough
  obtain ⟨fuel, rfl⟩ := fuel_eq_succ enough
  rw [List.length_cons, List.length_append] at enough
  rw [List.cons_append, List.append_assoc, skipItems, skipBlanks_of_not rfl]
  exact skipValue_bind itemSkips (items.endsNumber trivial rest) (by omega) (itemsSkip (by omega))

/-- Where the name of a member stands, it is passed over with its value and the members after it. -/
theorem NameText.skips {name : String} {nameText : Bytes} (named : NameText name nameText)
    {others : List (String × Document)} (members : Written n (.members others) more) (valueSkips : SkipsValue bs)
    (membersSkip : SkipsMembers more) {fuel : Nat} (enough : (bs ++ more).length < fuel) (rest : Bytes) :
    ∃ quoted, skipBlanks (nameText ++ (bs ++ (more ++ rest))) = 0x22 :: quoted ∧
      (do
        let rest ← skipName quoted
        let rest ← skipValue fuel rest
        skipMembers fuel rest) = .ok rest := by
  obtain @⟨before, text, after, leading, quoted, trailing⟩ := named
  have named : skipName (text ++ (after ++ [0x3A] ++ (bs ++ (more ++ rest)))) = .ok (bs ++ (more ++ rest)) := by
    rw [skipName, quoted.skipString_append]
    show readColon (after ++ [0x3A] ++ _) = _
    rw [readColon, List.append_assoc, skipBlanks_append trailing]
    rfl
  refine ⟨text ++ (after ++ [0x3A] ++ (bs ++ (more ++ rest))), ?_, ?_⟩
  · simp only [List.append_assoc, skipBlanks_append leading, List.cons_append]
    rfl
  · rw [named]
    rw [List.length_append] at enough
    exact skipValue_bind valueSkips (members.endsNumber trivial rest) (by omega) (membersSkip (by omega))

theorem skipsValue_object {name : String} {others : List (String × Document)} {nameText : Bytes}
    (named : NameText name nameText) (members : Written n (.members others) more) (valueSkips : SkipsValue bs)
    (membersSkip : SkipsMembers more) : SkipsValue (0x7B :: (nameText ++ (bs ++ more))) := by
  intro fuel rest enough ends
  obtain ⟨fuel, rfl⟩ := fuel_eq_succ enough
  rw [List.length_cons, List.length_append] at enough
  obtain ⟨quoted, quotes, skipped⟩ := named.skips members valueSkips membersSkip (show _ < fuel by omega) rest
  rw [List.cons_append, List.append_assoc, List.append_assoc, skipValue, skipBlanks_of_not rfl]
  simp only [quotes]
  exact skipped

theorem skipsMembers_member {name : String} {others : List (String × Document)} {nameText : Bytes}
    (named : NameText name nameText) (members : Written n (.members others) more) (valueSkips : SkipsValue bs)
    (membersSkip : SkipsMembers more) : SkipsMembers (0x2C :: (nameText ++ (bs ++ more))) := by
  intro fuel rest enough
  obtain ⟨fuel, rfl⟩ := fuel_eq_succ enough
  rw [List.length_cons, List.length_append] at enough
  obtain ⟨quoted, quotes, skipped⟩ := named.skips members valueSkips membersSkip (show _ < fuel by omega) rest
  rw [List.cons_append, List.append_assoc, List.append_assoc, skipMembers, skipBlanks_of_not rfl]
  simp only [quotes]
  exact skipped

/-- The octets of every part are passed over, with no bound on how deep it is nested. -/
theorem Written.skips {part : Part} (written : Written n part bs) : part.Skips bs := by
  induction written with
  | blank blank _ ih => exact Part.skips_blank blank ih
  | nullWord | trueWord | falseWord =>
      intro fuel rest enough ends
      obtain ⟨fuel, rfl⟩ := fuel_eq_succ enough
      rw [skipValue]
      rfl
  | positive numeral => exact skipsValue_positive numeral
  | negative numeral => exact skipsValue_negative numeral
  | string quoted => exact skipsValue_string quoted
  | emptyArray between => exact skipsValue_emptyArray between
  | array item items itemSkips itemsSkip => exact skipsValue_array item items itemSkips itemsSkip
  | emptyObject between => exact skipsValue_emptyObject between
  | object named _ members valueSkips membersSkip => exact skipsValue_object named members valueSkips membersSkip
  | lastItem | lastMember =>
      intro fuel rest enough
      obtain ⟨fuel, rfl⟩ := fuel_eq_succ enough
      rfl
  | item _ items itemSkips itemsSkip => exact skipsItems_item items itemSkips itemsSkip
  | member named _ members valueSkips membersSkip => exact skipsMembers_member named members valueSkips membersSkip

end

end QueryGateway.Json
