import QueryGateway.Proofs.ReadingFuel
import QueryGateway.Proofs.StringTexts

/-!
# Documents and their texts

A document is the syntax tree of a JSON text: its members stand in the order of the text, with repetitions, and
its numbers are the octets that write them.  `Written` is the grammar, said without the reader; a nesting bound
stands beside it.  `Document.value?` is what a document stands for, if anything: repeated members count once, and
an object may stand for a document inside a string.

Main statement: from the text of a document the reader reads the value that the document stands for, and nothing
if it stands for nothing.
-/

namespace QueryGateway

open Json

/-- The syntax tree of a JSON text. -/
inductive Document where
  | null
  | bool (b : Bool)
  /-- A number: whether there is a minus sign, and the octets after it. -/
  | number (negative : Bool) (digits : Bytes)
  | string (s : String)
  | array (items : List Document)
  | object (members : List (String × Document))

namespace Document

/-! ## Values -/

/-- The text of a string. -/
def string? : Document → Option String
  | .string s => some s
  | _ => none

mutual

/-- What a document stands for: nothing if a number is out of range, or if the text inside a string that it
stands for cannot be read. -/
def value? : Document → Option Json
  | .null => some .null
  | .bool b => some (.bool b)
  | .number negative digits => (readNumber negative digits).toOption.map fun read => .number read.1
  | .string s => some (.string s)
  | .array items => (itemValues? items).map .array
  | .object [] => some (.object [])
  | .object ((name, first) :: others) =>
    if name = embeddedName then
      if others.isEmpty then first.string?.bind fun s => (parse (Bytes.ofString s)).toOption else none
    else
      (value? first).bind fun value => (memberValues? [(name, value)] others).map .object

/-- The values of items in order. -/
def itemValues? : List Document → Option (List Json)
  | [] => some []
  | item :: items => (value? item).bind fun value => (itemValues? items).map (value :: ·)

/-- The members read so far with those to come: of two with one name, the later counts. -/
def memberValues? (before : Members) : List (String × Document) → Option Members
  | [] => some before
  | (name, next) :: others =>
    (value? next).bind fun value => memberValues? (before.insert name value) others

end

end Document

namespace Json

/-! ## The grammar -/

/-- All octets are blanks between tokens. -/
def AllBlank (bs : Bytes) : Prop := ∀ b ∈ bs, isBlankOctet b = true

/-- The name of a member, up to its colon. -/
inductive NameText (name : String) : Bytes → Prop
  | intro {before text after : Bytes} (leading : AllBlank before) (quoted : StringText name.toList text)
      (trailing : AllBlank after) : NameText name (before ++ 0x22 :: (text ++ (after ++ [0x3A])))

/-- A part of a text: a value, or what follows the first item of a list or the first member of an object, the
closing bracket with it. -/
inductive Part where
  | value (document : Document)
  | items (items : List Document)
  | members (members : List (String × Document))

/-- A part stands inside a list or an object, after its first item or member. -/
def Part.IsInside : Part → Prop
  | .value _ => False
  | .items _ | .members _ => True

/-- Octets write a part of a text, in which lists and objects are nested at most `n` deep. -/
inductive Written : Nat → Part → Bytes → Prop
  | blank {n : Nat} {part : Part} {b : UInt8} {bs : Bytes} (blank : isBlankOctet b = true)
      (written : Written n part bs) : Written n part (b :: bs)
  | nullWord {n : Nat} : Written n (.value .null) [0x6E, 0x75, 0x6C, 0x6C]
  | trueWord {n : Nat} : Written n (.value (.bool true)) [0x74, 0x72, 0x75, 0x65]
  | falseWord {n : Nat} : Written n (.value (.bool false)) [0x66, 0x61, 0x6C, 0x73, 0x65]
  | positive {n : Nat} {bs : Bytes} (numeral : Numeral bs) : Written n (.value (.number false bs)) bs
  | negative {n : Nat} {bs : Bytes} (numeral : Numeral bs) :
      Written n (.value (.number true bs)) (0x2D :: bs)
  | string {n : Nat} {s : String} {bs : Bytes} (quoted : StringText s.toList bs) :
      Written n (.value (.string s)) (0x22 :: bs)
  | emptyArray {n : Nat} {blanks : Bytes} (between : AllBlank blanks) :
      Written (n + 1) (.value (.array [])) (0x5B :: (blanks ++ [0x5D]))
  | array {n : Nat} {first : Document} {others : List Document} {bs more : Bytes}
      (item : Written n (.value first) bs) (items : Written n (.items others) more) :
      Written (n + 1) (.value (.array (first :: others))) (0x5B :: (bs ++ more))
  | emptyObject {n : Nat} {blanks : Bytes} (between : AllBlank blanks) :
      Written (n + 1) (.value (.object [])) (0x7B :: (blanks ++ [0x7D]))
  | object {n : Nat} {name : String} {first : Document} {others : List (String × Document)}
      {nameText bs more : Bytes} (named : NameText name nameText) (value : Written n (.value first) bs)
      (members : Written n (.members others) more) :
      Written (n + 1) (.value (.object ((name, first) :: others))) (0x7B :: (nameText ++ (bs ++ more)))
  | lastItem {n : Nat} : Written n (.items []) [0x5D]
  | item {n : Nat} {next : Document} {others : List Document} {bs more : Bytes}
      (item : Written n (.value next) bs) (items : Written n (.items others) more) :
      Written n (.items (next :: others)) (0x2C :: (bs ++ more))
  | lastMember {n : Nat} : Written n (.members []) [0x7D]
  | member {n : Nat} {name : String} {next : Document} {others : List (String × Document)}
      {nameText bs more : Bytes} (named : NameText name nameText) (value : Written n (.value next) bs)
      (members : Written n (.members others) more) :
      Written n (.members ((name, next) :: others)) (0x2C :: (nameText ++ (bs ++ more)))

/-- Octets are a whole text of a document, nested at most `n` deep. -/
inductive TextOf (n : Nat) (document : Document) : Bytes → Prop
  | intro {bs blanks : Bytes} (written : Written n (.value document) bs) (after : AllBlank blanks) :
      TextOf n document (bs ++ blanks)

/-! ## First octets -/

theorem skipBlanks_append {blanks : Bytes} (all : AllBlank blanks) (bs : Bytes) :
    skipBlanks (blanks ++ bs) = skipBlanks bs := List.dropWhile_append_of_pos all

theorem isBlankOctet_of_digit {b : UInt8} (digit : isDigitOctet b = true) : isBlankOctet b = false := by
  unfold isDigitOctet at digit
  unfold isBlankOctet
  have ne {c : UInt8} (below : c.toNat < 0x30) : b ≠ c := by
    rintro rfl
    simp only [Bool.and_eq_true, decide_eq_true_eq] at digit
    omega
  simp [ne (show (0x20 : UInt8).toNat < 0x30 by decide), ne (show (0x0A : UInt8).toNat < 0x30 by decide),
    ne (show (0x09 : UInt8).toNat < 0x30 by decide), ne (show (0x0D : UInt8).toNat < 0x30 by decide)]

theorem endsNumber_of_blank {b : UInt8} (blank : isBlankOctet b = true) (bs : Bytes) :
    EndsNumber (b :: bs) := by
  have notDigit : isDigitOctet b = false := by
    cases digit : isDigitOctet b with
    | false => rfl
    | true =>
        rw [isBlankOctet_of_digit digit] at blank
        cases blank
  refine endsNumber_cons.mpr ⟨notDigit, ?_, ?_, ?_⟩ <;> rintro rfl <;> cases blank

/-- The octet that a value starts with opens no bracket and ends no list; a quote starts strings only. -/
structure Starts (document : Document) (bs : Bytes) (b : UInt8) (after : Bytes) : Prop where
  skipped : ∀ rest, skipBlanks (bs ++ rest) = b :: (after ++ rest)
  notClosing : b ≠ 0x5D
  quote : b = 0x22 → ∃ s, document = .string s ∧ StringText s.toList after
  string : ∀ {s}, document = .string s → b = 0x22

theorem Numeral.eq_cons {bs : Bytes} (numeral : Numeral bs) :
    ∃ b after, bs = b :: after ∧ isDigitOctet b = true := by
  obtain ⟨digits, -, -⟩ := numeral
  cases digits with
  | zero => exact ⟨_, _, rfl, rfl⟩
  | other digit => exact ⟨_, _, rfl, digit⟩

theorem Written.starts {n : Nat} {document : Document} {bs : Bytes}
    (written : Written n (.value document) bs) : ∃ b after, Starts document bs b after := by
  generalize same : Part.value document = part at written
  induction written with
  | blank blank _ ih =>
      obtain ⟨b, after, starts⟩ := ih same
      exact ⟨b, after, { starts with
        skipped := fun rest => (skipBlanks_of_blank blank _).trans (starts.skipped rest) }⟩
  | positive numeral =>
      cases same
      obtain ⟨b, after, rfl, digit⟩ := numeral.eq_cons
      refine ⟨b, after, fun rest => skipBlanks_of_not (isBlankOctet_of_digit digit) _, ?_, ?_, nofun⟩
      · rintro rfl
        cases digit
      · rintro rfl
        cases digit
  | string quoted =>
      cases same
      exact ⟨_, _, fun _ => rfl, by decide, fun _ => ⟨_, rfl, quoted⟩, fun _ => rfl⟩
  | lastItem | item | lastMember | member => cases same
  | nullWord | trueWord | falseWord | negative | emptyArray | array | emptyObject | object =>
      cases same
      exact ⟨_, _, fun _ => rfl, by decide, fun quotes => absurd quotes (by decide), nofun⟩

/-- What follows an item or a member does not go on with a number. -/
theorem Written.endsNumber {n : Nat} {part : Part} {bs : Bytes} (written : Written n part bs)
    (inside : part.IsInside) (rest : Bytes) : EndsNumber (bs ++ rest) := by
  cases written with
  | blank blank => exact endsNumber_of_blank blank _
  | lastItem | item | lastMember | member => exact endsNumber_cons.mpr (by decide)
  | nullWord | trueWord | falseWord | positive | negative | string | emptyArray | array | emptyObject | object =>
      exact inside.elim

/-! ## Reading separators -/

/-- Where the name of a member stands, the readers of members find it and leave what follows its colon. -/
theorem NameText.reads {name : String} {nameText : Bytes} (named : NameText name nameText) :
    ∃ quoted, (∀ rest, firstMember (nameText ++ rest) = .ok (.more (quoted ++ rest))) ∧
      (∀ rest, nextMember (0x2C :: (nameText ++ rest)) = .ok (.more (quoted ++ rest))) ∧
      ∀ rest, readName (quoted ++ rest) = .ok (name, rest) := by
  obtain @⟨before, text, after, leading, quoted, trailing⟩ := named
  have quotes (rest : Bytes) : skipBlanks (before ++ 0x22 :: (text ++ (after ++ [0x3A])) ++ rest) =
      0x22 :: (text ++ (after ++ [0x3A]) ++ rest) := by
    rw [List.append_assoc, skipBlanks_append leading]
    rfl
  refine ⟨text ++ (after ++ [0x3A]), fun rest => ?_, fun rest => ?_, fun rest => ?_⟩
  · rw [firstMember, quotes]
    rfl
  · rw [nextMember, skipBlanks_of_not rfl]
    simp only [quotes]
  · have colon : readColon (after ++ [0x3A] ++ rest) = .ok rest := by
      rw [readColon, List.append_assoc, skipBlanks_append trailing]
      rfl
    rw [List.append_assoc, readName, quoted.readString_append]
    show (readColon (after ++ [0x3A] ++ rest) >>= fun rest => Except.ok (String.ofList name.toList, rest)) = _
    rw [colon, String.ofList_toList]
    rfl

theorem nextMember_of_blank {b : UInt8} (blank : isBlankOctet b = true) (bs : Bytes) :
    nextMember (b :: bs) = nextMember bs := by
  unfold nextMember
  rw [skipBlanks_of_blank blank]

theorem nextItem_of_blank {b : UInt8} (blank : isBlankOctet b = true) (bs : Bytes) :
    nextItem (b :: bs) = nextItem bs := by
  unfold nextItem
  rw [skipBlanks_of_blank blank]

theorem closeObject_of_blank {b : UInt8} (blank : isBlankOctet b = true) (bs : Bytes) :
    closeObject (b :: bs) = closeObject bs := by
  unfold closeObject
  rw [skipBlanks_of_blank blank]

section

variable {n : Nat} {document : Document} {bs : Bytes}

theorem Written.firstItem_append (written : Written n (.value document) bs) (rest : Bytes) :
    firstItem (bs ++ rest) = .ok (.more (skipBlanks (bs ++ rest))) := by
  obtain ⟨b, after, starts⟩ := written.starts
  unfold firstItem
  rw [starts.skipped]
  split
  · next closes => exact absurd (List.cons.inj closes).1 starts.notClosing
  · next ends => cases ends
  · rfl

theorem Written.nextItem_append (written : Written n (.value document) bs) (rest : Bytes) :
    nextItem (0x2C :: (bs ++ rest)) = .ok (.more (skipBlanks (bs ++ rest))) := by
  obtain ⟨b, after, starts⟩ := written.starts
  rw [nextItem, skipBlanks_of_not rfl]
  simp only [starts.skipped]
  split
  · next closes => exact absurd (List.cons.inj closes).1 starts.notClosing
  · next ends => cases ends
  · rfl

/-- Where a string is expected, the text of a string gives it, and that of another value gives nothing. -/
theorem Written.toOption_expectString (written : Written n (.value document) bs) (expected : String)
    (rest : Bytes) :
    (expectString expected (bs ++ rest)).toOption = document.string?.map (·, rest) := by
  obtain ⟨b, after, starts⟩ := written.starts
  unfold expectString
  rw [starts.skipped]
  split
  · next quotes =>
    obtain ⟨s, rfl, quoted⟩ := starts.quote (List.cons.inj quotes).1
    rw [← (List.cons.inj quotes).2, quoted.readString_append, String.ofList_toList]
    rfl
  · next noQuote =>
    rw [toOption_unexpectedValue]
    cases document with
    | string s =>
        have quotes := starts.string rfl
        subst quotes
        exact absurd rfl (noQuote _)
    | null | bool | number | array | object => rfl

/-- A string is not shorter as it is written than the text that it stands for. -/
theorem Written.length_ofString_lt (written : Written n (.value document) bs) {s : String}
    (given : document.string? = some s) : (Bytes.ofString s).length + 1 < bs.length := by
  generalize same : Part.value document = part at written
  induction written with
  | blank _ _ ih => exact Nat.lt_succ_of_lt (ih same)
  | string quoted =>
      cases same
      cases given
      exact Nat.succ_lt_succ quoted.length_encode_lt
  | nullWord | trueWord | falseWord | positive | negative | emptyArray | array | emptyObject | object =>
      cases same
      cases given
  | lastItem | item | lastMember | member => cases same

/-- An object can be left at its end only. -/
theorem Written.toOption_closeObject {others : List (String × Document)}
    (written : Written n (.members others) bs) (rest : Bytes) :
    (closeObject (bs ++ rest)).toOption = if others.isEmpty then some rest else none := by
  generalize same : Part.members others = part at written
  induction written with
  | blank blank _ ih => exact (congrArg _ (closeObject_of_blank blank _)).trans (ih same)
  | lastMember | member =>
      cases same
      rfl
  | nullWord | trueWord | falseWord | positive | negative | string | emptyArray | array | emptyObject
  | object | lastItem | item => cases same

end

/-! ## Reading values -/

section

variable {fuel depth : Nat}

theorem readValue_skipBlanks (embeds : Bool) (fuel depth : Nat) (bs : Bytes) :
    readValue embeds fuel depth (skipBlanks bs) = readValue embeds fuel depth bs := by
  cases fuel with
  | zero => rfl
  | succ fuel =>
      unfold readValue
      rw [skipBlanks_skipBlanks]

theorem readValue_of_blank {embeds : Bool} {b : UInt8} (blank : isBlankOctet b = true) (bs : Bytes) :
    readValue embeds fuel depth (b :: bs) = readValue embeds fuel depth bs := by
  rw [← readValue_skipBlanks, skipBlanks_of_blank blank, readValue_skipBlanks]

theorem readItems_of_blank {embeds : Bool} {b : UInt8} (blank : isBlankOctet b = true) (bs : Bytes) :
    readItems embeds fuel depth (b :: bs) = readItems embeds fuel depth bs := by
  cases fuel with
  | zero => rfl
  | succ fuel =>
      unfold readItems
      rw [nextItem_of_blank blank]

theorem readMembers_of_blank {embeds : Bool} {b : UInt8} (blank : isBlankOctet b = true)
    (before : Members) (bs : Bytes) :
    readMembers embeds fuel depth before (b :: bs) = readMembers embeds fuel depth before bs := by
  cases fuel with
  | zero => rfl
  | succ fuel =>
      unfold readMembers
      rw [nextMember_of_blank blank]

theorem readValue_of_digit {embeds : Bool} {b : UInt8} (digit : isDigitOctet b = true) (bs : Bytes) :
    readValue embeds (fuel + 1) depth (b :: bs) = (do
      let (n, rest) ← readNumber false (b :: bs)
      .ok (.number n, rest)) := by
  unfold readValue
  rw [skipBlanks_of_not (isBlankOctet_of_digit digit)]
  split
  case h_9 starts =>
    cases starts
    rw [if_pos digit]
  all_goals
    next starts =>
    cases starts
    try cases digit

end

/-- From the octets of a value, whatever follows them, what it stands for is read. -/
def ReadsValue (n : Nat) (document : Document) (bs : Bytes) : Prop :=
  ∀ {fuel depth : Nat} {rest : Bytes}, bs.length < fuel → n < depth → EndsNumber rest →
    (readValue true fuel depth (bs ++ rest)).toOption = document.value?.map (·, rest)

/-- From the octets of items, whatever follows them, what they stand for is read. -/
def ReadsItems (n : Nat) (items : List Document) (bs : Bytes) : Prop :=
  ∀ {fuel depth : Nat} {rest : Bytes}, bs.length < fuel → n < depth →
    (readItems true fuel depth (bs ++ rest)).toOption = (Document.itemValues? items).map (·, rest)

/-- From the octets of members, whatever comes before and after them, what they stand for is read. -/
def ReadsMembers (n : Nat) (members : List (String × Document)) (bs : Bytes) : Prop :=
  ∀ {fuel depth : Nat} {before : Members} {rest : Bytes}, bs.length < fuel → n < depth →
    (readMembers true fuel depth before (bs ++ rest)).toOption =
      (Document.memberValues? before members).map (·, rest)

/-- From the octets of a part, whatever follows them, what the part stands for is read. -/
def Part.Reads (n : Nat) : Part → Bytes → Prop
  | .value document => ReadsValue n document
  | .items others => ReadsItems n others
  | .members others => ReadsMembers n others

theorem toOption_parse (bs : Bytes) : (parse bs).toOption = (readWhole (fuelFor bs) bs).toOption := by
  unfold parse
  split
  · next read => rw [read]; rfl
  · next read => rw [read]; rfl

section

variable {n : Nat} {bs more : Bytes}

theorem Part.reads_blank {part : Part} {b : UInt8} (blank : isBlankOctet b = true)
    (reads : part.Reads n bs) : part.Reads n (b :: bs) := by
  cases part with
  | value document =>
      intro fuel depth rest enough shallow ends
      rw [List.cons_append, readValue_of_blank blank, reads (Nat.lt_of_succ_lt enough) shallow ends]
  | items items =>
      intro fuel depth rest enough shallow
      rw [List.cons_append, readItems_of_blank blank, reads (Nat.lt_of_succ_lt enough) shallow]
  | members members =>
      intro fuel depth before rest enough shallow
      rw [List.cons_append, readMembers_of_blank blank, reads (Nat.lt_of_succ_lt enough) shallow]

theorem readsValue_positive (numeral : Numeral bs) : ReadsValue n (.number false bs) bs := by
  intro fuel depth rest enough shallow ends
  have read := numeral.toOption_readNumber false ends
  obtain ⟨b, after, rfl, digit⟩ := numeral.eq_cons
  obtain ⟨fuel, rfl⟩ := Nat.exists_eq_add_one_of_ne_zero (Nat.ne_of_gt (Nat.zero_lt_of_lt enough))
  rw [List.cons_append] at read ⊢
  rw [readValue_of_digit digit, toOption_bind, read, Document.value?, Option.map_map]
  cases readNumber false (b :: after) <;> rfl

theorem readsValue_negative (numeral : Numeral bs) : ReadsValue n (.number true bs) (0x2D :: bs) := by
  intro fuel depth rest enough shallow ends
  obtain ⟨fuel, rfl⟩ := Nat.exists_eq_add_one_of_ne_zero (Nat.ne_of_gt (Nat.zero_lt_of_lt enough))
  rw [List.cons_append, readValue, skipBlanks_of_not rfl]
  simp only
  rw [toOption_bind, numeral.toOption_readNumber true ends, Document.value?, Option.map_map]
  cases readNumber true bs <;> rfl

/-- The reading of a first item or a next one, with those that follow it, of which `make` is made. -/
theorem toOption_item {α : Type} (make : Json → List Json → α) {first : Document}
    {others : List Document} (item : ReadsValue n first bs) (items : ReadsItems n others more)
    {fuel depth : Nat} {rest : Bytes} (ends : EndsNumber (more ++ rest))
    (enough : (bs ++ more).length < fuel) (shallow : n < depth) :
    (do
      let (first, rest) ← readValue true fuel depth (skipBlanks (bs ++ (more ++ rest)))
      let (items, rest) ← readItems true fuel depth rest
      .ok (make first items, rest) : Reading (α × Bytes)).toOption =
      (first.value?.bind fun value => (Document.itemValues? others).map (make value)).map (·, rest) := by
  rw [List.length_append] at enough
  rw [readValue_skipBlanks, toOption_bind, item (by omega) shallow ends]
  cases first.value? with
  | none => rfl
  | some value =>
      show ((readItems true fuel depth (more ++ rest) >>= _ : Reading _)).toOption = _
      rw [toOption_bind, items (by omega) shallow]
      cases Document.itemValues? others <;> rfl

theorem fuel_eq_succ {fuel : Nat} {bs : Bytes} (enough : bs.length < fuel) :
    ∃ less, fuel = less + 1 :=
  Nat.exists_eq_add_one_of_ne_zero (Nat.ne_of_gt (Nat.zero_lt_of_lt enough))

theorem readsValue_string {s : String} (quoted : StringText s.toList bs) :
    ReadsValue n (.string s) (0x22 :: bs) := by
  intro fuel depth rest enough shallow ends
  obtain ⟨fuel, rfl⟩ := fuel_eq_succ enough
  rw [List.cons_append, readValue, skipBlanks_of_not rfl]
  simp only
  rw [quoted.readString_append, String.ofList_toList]
  rfl

theorem readsValue_emptyArray {blanks : Bytes} (between : AllBlank blanks) :
    ReadsValue (n + 1) (.array []) (0x5B :: (blanks ++ [0x5D])) := by
  intro fuel depth rest enough shallow ends
  obtain ⟨fuel, rfl⟩ := fuel_eq_succ enough
  have closed : firstItem (blanks ++ [0x5D] ++ rest) = .ok (.done rest) := by
    rw [firstItem, List.append_assoc, skipBlanks_append between]
    rfl
  rw [List.cons_append, readValue, skipBlanks_of_not rfl]
  simp only
  rw [if_neg (by omega), closed]
  rfl

theorem readsValue_array {first : Document} {others : List Document}
    (item : Written n (.value first) bs) (items : Written n (.items others) more)
    (itemReads : ReadsValue n first bs) (itemsRead : ReadsItems n others more) :
    ReadsValue (n + 1) (.array (first :: others)) (0x5B :: (bs ++ more)) := by
  intro fuel depth rest enough shallow ends
  obtain ⟨fuel, rfl⟩ := fuel_eq_succ enough
  have read := toOption_item (fun value values => Json.array (value :: values)) itemReads itemsRead
    (items.endsNumber trivial rest) (Nat.lt_of_succ_lt_succ enough) (show n < depth - 1 by omega)
  rw [List.cons_append, List.append_assoc, readValue, skipBlanks_of_not rfl]
  simp only
  rw [if_neg (by omega), item.firstItem_append]
  refine read.trans ?_
  rw [Document.value?, Document.itemValues?]
  cases first.value? with
  | none => rfl
  | some value => cases Document.itemValues? others <;> rfl

theorem readsItems_last : ReadsItems n [] [0x5D] := by
  intro fuel depth rest enough shallow
  obtain ⟨fuel, rfl⟩ := fuel_eq_succ enough
  rw [readItems]
  rfl

theorem readsItems_item {next : Document} {others : List Document}
    (item : Written n (.value next) bs) (items : Written n (.items others) more)
    (itemReads : ReadsValue n next bs) (itemsRead : ReadsItems n others more) :
    ReadsItems n (next :: others) (0x2C :: (bs ++ more)) := by
  intro fuel depth rest enough shallow
  obtain ⟨fuel, rfl⟩ := fuel_eq_succ enough
  rw [List.cons_append, List.append_assoc, readItems, item.nextItem_append]
  exact toOption_item List.cons itemReads itemsRead (items.endsNumber trivial rest) (Nat.lt_of_succ_lt_succ enough)
    shallow

theorem readsMembers_last : ReadsMembers n [] [0x7D] := by
  intro fuel depth before rest enough shallow
  obtain ⟨fuel, rfl⟩ := fuel_eq_succ enough
  rw [readMembers]
  rfl

/-- The reading of a first member or a next one, with those that follow it. -/
theorem toOption_member (enter : Json → Members) {first : Document}
    {others : List (String × Document)} (value : ReadsValue n first bs)
    (members : ReadsMembers n others more) {fuel depth : Nat} {rest : Bytes}
    (ends : EndsNumber (more ++ rest)) (enough : (bs ++ more).length < fuel) (shallow : n < depth) :
    (do
      let (value, rest) ← readValue true fuel depth (bs ++ (more ++ rest))
      readMembers true fuel depth (enter value) rest : Reading (Members × Bytes)).toOption =
      (first.value?.bind fun value => Document.memberValues? (enter value) others).map (·, rest) := by
  rw [List.length_append] at enough
  rw [toOption_bind, value (by omega) shallow ends]
  cases first.value? with
  | none => rfl
  | some value => exact members (by omega) shallow

theorem readsMembers_member {name : String} {next : Document} {others : List (String × Document)}
    {nameText : Bytes} (named : NameText name nameText) (members : Written n (.members others) more)
    (valueReads : ReadsValue n next bs) (membersRead : ReadsMembers n others more) :
    ReadsMembers n ((name, next) :: others) (0x2C :: (nameText ++ (bs ++ more))) := by
  intro fuel depth before rest enough shallow
  obtain ⟨fuel, rfl⟩ := fuel_eq_succ enough
  obtain ⟨quoted, -, nextMember, name⟩ := named.reads
  rw [List.length_cons, List.length_append] at enough
  rw [List.cons_append, List.append_assoc, List.append_assoc, readMembers, nextMember]
  show (readName (quoted ++ (bs ++ (more ++ rest))) >>= _ : Reading _).toOption = _
  rw [name]
  exact toOption_member (fun value => before.insert _ value) valueReads membersRead
    (members.endsNumber trivial rest) (by omega) shallow

theorem readsValue_emptyObject {blanks : Bytes} (between : AllBlank blanks) :
    ReadsValue (n + 1) (.object []) (0x7B :: (blanks ++ [0x7D])) := by
  intro fuel depth rest enough shallow ends
  obtain ⟨fuel, rfl⟩ := fuel_eq_succ enough
  have closed : firstMember (blanks ++ [0x7D] ++ rest) = .ok (.done rest) := by
    rw [firstMember, List.append_assoc, skipBlanks_append between]
    rfl
  rw [List.cons_append, readValue, skipBlanks_of_not rfl]
  simp only
  rw [if_neg (by omega), closed]
  rfl

/-- The reading of an object after the name of its first member, where that name is `embeddedName`. -/
theorem toOption_embedded {first : Document} {others : List (String × Document)}
    (value : Written n (.value first) bs) (members : Written n (.members others) more) {fuel : Nat}
    {rest : Bytes} (enough : bs.length < fuel) :
    (do
      let (written, rest) ← expectString "raw value" (bs ++ (more ++ rest))
      match readWhole fuel (Bytes.ofString written) with
      | .error failure => .error (.settled (failure.error (Bytes.ofString written)))
      | .ok value =>
        let rest ← closeObject rest
        .ok (value, rest) : Reading (Json × Bytes)).toOption =
      (if others.isEmpty then first.string?.bind fun s => (parse (Bytes.ofString s)).toOption
        else none).map (·, rest) := by
  rw [toOption_bind, value.toOption_expectString]
  cases given : first.string? with
  | none => cases others <;> rfl
  | some s =>
      have room := Nat.lt_trans (value.length_ofString_lt given) enough
      have inner : readWhole fuel (Bytes.ofString s) = readWhole (fuelFor (Bytes.ofString s)) _ :=
        readWhole_eq room
      show ((match readWhole fuel (Bytes.ofString s) with | .error _ => _ | .ok _ => _ : Reading _)).toOption = _
      rw [inner, Option.bind_some, toOption_parse]
      cases readWhole (fuelFor (Bytes.ofString s)) (Bytes.ofString s) with
      | error failure => cases others <;> rfl
      | ok value =>
          show (closeObject (more ++ rest) >>= _ : Reading _).toOption = _
          rw [toOption_bind, members.toOption_closeObject]
          cases others <;> rfl

theorem readsValue_object {name : String} {first : Document} {others : List (String × Document)}
    {nameText : Bytes} (named : NameText name nameText) (value : Written n (.value first) bs)
    (members : Written n (.members others) more)
    (valueReads : ReadsValue n first bs) (membersRead : ReadsMembers n others more) :
    ReadsValue (n + 1) (.object ((name, first) :: others)) (0x7B :: (nameText ++ (bs ++ more))) := by
  intro fuel depth rest enough shallow ends
  obtain ⟨fuel, rfl⟩ := fuel_eq_succ enough
  obtain ⟨quoted, firstMember, -, nameRead⟩ := named.reads
  rw [List.length_cons, List.length_append, List.length_append] at enough
  rw [List.cons_append, List.append_assoc, List.append_assoc, readValue, skipBlanks_of_not rfl]
  simp only
  rw [if_neg (by omega), firstMember]
  show (readName (quoted ++ (bs ++ (more ++ rest))) >>= _ : Reading _).toOption = _
  rw [nameRead, Document.value?]
  by_cases embedded : name = embeddedName
  · show (if (Bool.true && decide (name = embeddedName)) = Bool.true then _ else _ : Reading _).toOption = _
    rw [if_pos (by simpa using embedded), if_pos embedded]
    exact toOption_embedded value members (by omega)
  · show (if (Bool.true && decide (name = embeddedName)) = Bool.true then _ else _ : Reading _).toOption = _
    rw [if_neg (by simpa using embedded), if_neg embedded]
    rw [toOption_bind, valueReads (by omega) (by omega) (members.endsNumber trivial rest)]
    cases first.value? with
    | none => rfl
    | some value =>
        show (readMembers true fuel (depth - 1) [(name, value)] (more ++ rest) >>= _ : Reading _).toOption = _
        rw [toOption_bind, membersRead (by omega) (by omega), Option.bind_some]
        cases Document.memberValues? [(name, value)] others <;> rfl

/-- From the octets of every part, what it stands for is read: each reader meets the text of the parts that the
grammar puts together, and these have been read. -/
theorem Written.reads {part : Part} (written : Written n part bs) : part.Reads n bs := by
  induction written with
  | blank blank _ ih => exact Part.reads_blank blank ih
  | nullWord | trueWord | falseWord =>
      intro fuel depth rest enough shallow ends
      obtain ⟨fuel, rfl⟩ := fuel_eq_succ enough
      rw [readValue]
      rfl
  | positive numeral => exact readsValue_positive numeral
  | negative numeral => exact readsValue_negative numeral
  | string quoted => exact readsValue_string quoted
  | emptyArray between => exact readsValue_emptyArray between
  | array item items itemReads itemsRead => exact readsValue_array item items itemReads itemsRead
  | emptyObject between => exact readsValue_emptyObject between
  | object named value members valueReads membersRead =>
      exact readsValue_object named value members valueReads membersRead
  | lastItem => exact readsItems_last
  | item item items itemReads itemsRead => exact readsItems_item item items itemReads itemsRead
  | lastMember => exact readsMembers_last
  | member named _ members valueReads membersRead =>
      exact readsMembers_member named members valueReads membersRead

end

theorem readEnd_of_allBlank {blanks : Bytes} (all : AllBlank blanks) : readEnd blanks = .ok () := by
  have skipped := skipBlanks_append all []
  rw [List.append_nil] at skipped
  rw [readEnd, skipped]
  rfl

/-- The text of a document is read as what the document stands for, and not at all if it stands for nothing. -/
theorem TextOf.toOption_parse {n : Nat} {document : Document} {bs : Bytes}
    (text : TextOf n document bs) (shallow : n < depthLimit) : (parse bs).toOption = document.value? := by
  obtain @⟨bs, blanks, written, after⟩ := text
  have reads : ReadsValue n document bs := written.reads
  have ends : EndsNumber blanks := by
    cases blanks with
    | nil => exact endsNumber_nil
    | cons b blanks => exact endsNumber_of_blank (after b List.mem_cons_self) blanks
  rw [Json.toOption_parse, fuelFor, readWhole, toOption_bind,
    reads (by rw [List.length_append]; omega) shallow ends]
  cases document.value? with
  | none => rfl
  | some value =>
      show (readEnd blanks >>= _ : Reading _).toOption = _
      rw [readEnd_of_allBlank after]
      rfl

end Json

end QueryGateway
