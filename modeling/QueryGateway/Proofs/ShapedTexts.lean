import Mathlib.Data.List.Forall2
import QueryGateway.Proofs.RecordReading
import QueryGateway.Proofs.SkippedTexts
import QueryGateway.Shape.OfText

/-!
# Shapes of documents and of their texts

A shape that is read while a text is read is read as from the document that the text writes: what is read is the same,
and where nothing is read from the one, nothing is read from the other.  This holds of texts of any nesting, since a
value that belongs to no field is passed over.
-/

namespace QueryGateway

open Json Shape

/-! ## Documents as trees -/

namespace Document

/-- The truth value that a document stands for. -/
def flag? : Document → Option Bool
  | .bool b => some b
  | _ => none

/-- The number that a document stands for. -/
def number? : Document → Option Number
  | .number negative digits => (readNumber negative digits).toOption.map Prod.fst
  | _ => none

/-- What a number shows; a number out of range is shown as one that is not whole. -/
def numberView : Option Number → View Document
  | some (.whole n) => .whole n.val
  | some (.double x) => .fractional (String.ofList (x.chars doubleLayout))
  | none => .fractional ""

/-- What a document shows at its root. -/
def view : Document → View Document
  | .null => .null
  | .bool b => .flag b
  | .number negative digits => numberView (number? (.number negative digits))
  | .string s => .text s
  | .array items => .sequence items
  | .object members => .map members

theorem view_number (negative : Bool) (digits : Bytes) :
    (∃ n, view (.number negative digits) = .whole n) ∨
      ∃ written, view (.number negative digits) = .fractional written := by
  rw [view]
  rcases number? (.number negative digits) with _ | ⟨n⟩ | ⟨x⟩
  · exact .inr ⟨_, rfl⟩
  · exact .inl ⟨_, rfl⟩
  · exact .inr ⟨_, rfl⟩

end Document

instance : Shape.Tree Document where
  view := Document.view
  span? _ := none
  exactLength := true

namespace Shape

/-- From every text of a document, a shape is read as from the document, if the text may still be nested deeper than
`n`. -/
def Agrees {α : Type} (n : Nat) (ofText : TextReader α) (ofTree : TreeReader Document α) : Prop :=
  ∀ {m depth : Nat} {document : Document} {bs rest : Bytes}, Written m (.value document) bs → n < depth →
    EndsNumber rest → (ofText.run depth (bs ++ rest)).toOption = (ofTree.run document).toOption.map (·, rest)

variable {α β : Type} {n : Nat}

theorem Agrees.map {ofText : TextReader α} {ofTree : TreeReader Document α} (agree : Agrees n ofText ofTree)
    (f : α → β) : Agrees n (TextReader.map f ofText) (TreeReader.map f ofTree) := by
  intro m depth document bs rest written shallow ends
  show ((ofText.run depth (bs ++ rest) >>= _ : Reading _)).toOption = ((ofTree.run document).map f).toOption.map _
  rw [toOption_bind, agree written shallow ends]
  cases ofTree.run document <;> rfl

/-! ## Scalars -/

/-- A number is neither a text nor a truth value nor a record. -/
theorem toOption_run_number (negative : Bool) (digits : Bytes) :
    (TreeReader.text.run (.number negative digits : Document)).toOption = none ∧
      (TreeReader.flag.run (.number negative digits : Document)).toOption = none ∧
      ∀ s : Record (TreeReader Document) α, ((TreeReader.record s).run (.number negative digits)).toOption = none := by
  unfold TreeReader.text TreeReader.flag TreeReader.record
  rcases Document.view_number negative digits with ⟨n, shown⟩ | ⟨written, shown⟩
  · simp only [show Tree.view (Document.number negative digits) = _ from shown]
    exact ⟨rfl, rfl, fun _ => rfl⟩
  · simp only [show Tree.view (Document.number negative digits) = _ from shown]
    exact ⟨rfl, rfl, fun _ => rfl⟩

theorem toOption_run_text (document : Document) : (TreeReader.text.run document).toOption = document.string? := by
  cases document with
  | number negative digits => exact (@toOption_run_number Unit negative digits).1
  | null | bool | string | array | object => rfl

theorem agrees_text : Agrees n TextReader.text TreeReader.text := by
  intro m depth document bs rest written _ _
  rw [toOption_run_text]
  exact written.toOption_expectString "a string" rest

theorem toOption_run_flag (document : Document) : (TreeReader.flag.run document).toOption = document.flag? := by
  cases document with
  | number negative digits => exact (@toOption_run_number Unit negative digits).2.1
  | null | bool | string | array | object => rfl

theorem run_flag_of_blank {b : UInt8} (blank : isBlankOctet b = true) (depth : Nat) (bs : Bytes) :
    TextReader.flag.run depth (b :: bs) = TextReader.flag.run depth bs := by
  unfold TextReader.flag
  dsimp only
  rw [skipBlanks_of_blank blank]

theorem toOption_run_flag_eq_none {b : UInt8} (notBlank : isBlankOctet b = false) (notTrue : b ≠ 0x74)
    (notFalse : b ≠ 0x66) (depth : Nat) (bs : Bytes) : (TextReader.flag.run depth (b :: bs)).toOption = none := by
  unfold TextReader.flag
  dsimp only
  rw [skipBlanks_of_not notBlank]
  split
  · next starts => exact absurd (List.cons.inj starts).1 notTrue
  · next starts => exact absurd (List.cons.inj starts).1 notFalse
  · exact toOption_unexpectedValue _ _

theorem agrees_flag : Agrees n TextReader.flag TreeReader.flag := by
  intro m depth document bs rest written _ _
  rw [toOption_run_flag]
  generalize same : Part.value document = part at written
  induction written with
  | blank blank _ ih => exact (congrArg _ (run_flag_of_blank blank _ _)).trans (ih same)
  | trueWord | falseWord =>
      cases same
      rfl
  | positive numeral =>
      cases same
      obtain ⟨b, after, rfl, digit⟩ := numeral.eq_cons
      refine toOption_run_flag_eq_none (isBlankOctet_of_digit digit) ?_ ?_ _ _ <;>
        (rintro rfl; cases digit)
  | nullWord | negative | string | emptyArray | array | emptyObject | object =>
      cases same
      exact toOption_run_flag_eq_none rfl (by decide) (by decide) _ _
  | lastItem | item | lastMember | member => cases same

theorem readWordNumber_of_blank {b : UInt8} (blank : isBlankOctet b = true) (name : String) (bs : Bytes) :
    TextReader.readWordNumber name (b :: bs) = TextReader.readWordNumber name bs := by
  unfold TextReader.readWordNumber
  rw [skipBlanks_of_blank blank]

theorem toOption_readWordNumber_eq_none {b : UInt8} (notBlank : isBlankOctet b = false) (notMinus : b ≠ 0x2D)
    (notDigit : isDigitOctet b = false) (name : String) (bs : Bytes) :
    (TextReader.readWordNumber name (b :: bs)).toOption = none := by
  unfold TextReader.readWordNumber
  rw [skipBlanks_of_not notBlank]
  split
  · next ends => cases ends
  · next starts => exact absurd (List.cons.inj starts).1 notMinus
  · next starts =>
    cases starts
    rw [notDigit, if_neg Bool.false_ne_true]
    exact toOption_unexpectedValue _ _

theorem toOption_readNumber_eq {bs rest : Bytes} (numeral : Numeral bs) (negative : Bool) (ends : EndsNumber rest) :
    (readNumber negative (bs ++ rest)).toOption = (Document.number negative bs).number?.map (·, rest) := by
  rw [numeral.toOption_readNumber negative ends, Document.number?, Option.map_map]
  rfl

/-- Where a number is expected, the text of a number gives it, and that of another value gives nothing. -/
theorem toOption_readWordNumber {m : Nat} {document : Document} {bs rest : Bytes}
    (written : Written m (.value document) bs) (ends : EndsNumber rest) (name : String) :
    (TextReader.readWordNumber name (bs ++ rest)).toOption = document.number?.map (·, rest) := by
  generalize same : Part.value document = part at written
  induction written with
  | blank blank _ ih => exact (congrArg _ (readWordNumber_of_blank blank _ _)).trans (ih same)
  | positive numeral =>
      cases same
      rw [← toOption_readNumber_eq numeral false ends]
      obtain ⟨b, after, rfl, digit⟩ := numeral.eq_cons
      unfold TextReader.readWordNumber
      rw [List.cons_append, skipBlanks_of_not (isBlankOctet_of_digit digit)]
      split
      · next starts => cases starts
      · next starts =>
        cases starts
        cases digit
      · next starts =>
        cases starts
        rw [if_pos digit]
  | negative numeral =>
      cases same
      exact toOption_readNumber_eq numeral true ends
  | nullWord | trueWord | falseWord | string | emptyArray | array | emptyObject | object =>
      cases same
      exact toOption_readWordNumber_eq_none rfl (by decide) rfl _ _
  | lastItem | item | lastMember | member => cases same

/-- The word that a function makes of a number. -/
def wordOf? (fit? : Int → Option α) : Number → Option α
  | .whole n => fit? n.val
  | .double _ => none

theorem toOption_run_word (fit? : Int → Option α) (name : String) (document : Document) :
    ((TreeReader.word fit? name).run document).toOption = document.number?.bind (wordOf? fit?) := by
  cases document with
  | number negative digits =>
      have shown : Tree.view (Document.number negative digits) = Document.numberView _ := rfl
      simp only [TreeReader.word, shown]
      rcases (Document.number negative digits).number? with _ | ⟨w⟩ | ⟨x⟩
      · rfl
      · simp only [Document.numberView, Option.bind_some, wordOf?]
        cases fit? w.val <;> rfl
      · rfl
  | null | bool | string | array | object => rfl

theorem agrees_word (fit? : Int → Option α) (name : String) :
    Agrees n (TextReader.word fit? name) (TreeReader.word fit? name) := by
  intro m depth document bs rest written _ ends
  rw [toOption_run_word]
  show ((TextReader.readWordNumber name (bs ++ rest) >>= _ : Reading _)).toOption = _
  rw [toOption_bind, toOption_readWordNumber written ends]
  rcases document.number? with _ | ⟨w⟩ | ⟨x⟩
  · rfl
  · simp only [Option.map_some, Option.bind_some, wordOf?]
    cases fit? w.val <;> rfl
  · rfl

/-! ## Fields -/

/-- Two fields have one name, are needed alike and are read alike. -/
structure Field.Agrees (n : Nat) (field : Field TextReader α) (other : Field (TreeReader Document) α) : Prop where
  name : field.name = other.name
  required : field.required = other.required
  read : Shape.Agrees n field.read other.read

theorem agrees_mayGive {ofText : TextReader β} {ofTree : TreeReader Document β} (agree : Shape.Agrees n ofText ofTree)
    (name : String) (set : β → α → α) :
    Field.Agrees n (Field.mayGive name ofText set) (Field.mayGive name ofTree set) :=
  ⟨rfl, rfl, agree.map set⟩

section

variable {fields : List (Field TextReader α)} {others : List (Field (TreeReader Document) α)}
  (agree : List.Forall₂ (Field.Agrees n) fields others)

include agree

theorem find?_of_agrees (name : String) :
    (fields.find? (fun field => field.name == name) = none ∧ others.find? (fun field => field.name == name) = none) ∨
      ∃ field other, fields.find? (fun field => field.name == name) = some field ∧
        others.find? (fun field => field.name == name) = some other ∧ field.Agrees n other := by
  induction agree with
  | nil => exact .inl ⟨rfl, rfl⟩
  | cons first _ ih =>
      rw [List.find?_cons, List.find?_cons, first.name]
      split
      · exact .inr ⟨_, _, rfl, rfl, first⟩
      · exact ih

theorem missing?_of_agrees (given : List String) :
    (fields.find? fun field => field.required && !given.contains field.name).map Field.name =
      (others.find? fun field => field.required && !given.contains field.name).map Field.name := by
  induction agree with
  | nil => rfl
  | cons first _ ih =>
      rw [List.find?_cons, List.find?_cons, first.name, first.required]
      split
      · exact congrArg some first.name
      · exact ih

theorem findIdx?_of_agrees : fields.findIdx? Field.required = others.findIdx? Field.required := by
  induction agree with
  | nil => rfl
  | cons first _ ih => rw [List.findIdx?_cons, List.findIdx?_cons, first.required, ih]

end

/-- Two records start from the same blank and have fields that agree, in the same order. -/
structure Record.Agrees (n : Nat) (r : Record TextReader α) (s : Record (TreeReader Document) α) : Prop where
  blank : r.blank = s.blank
  fields : List.Forall₂ (Field.Agrees n) r.fields s.fields

/-! ## Records in maps -/

theorem toOption_settle (exit : Bytes → Nat) (result : Reading α) :
    (TextReader.settle exit result).toOption = result.toOption := by
  unfold TextReader.settle
  split <;> rfl

/-- The record so far, with the names given so far, after one more entry. -/
def takeEntry (s : Record (TreeReader Document) α) (given : List String) (a : α) (name : String) (document : Document) :
    Option (List String × α) :=
  match s.field? name with
  | some field =>
    if given.contains name then none
    else (field.read.run document).toOption.map fun change => (name :: given, change a)
  | none => some (given, a)

theorem toOption_recordEntries (s : Record (TreeReader Document) α) (whole : Document) (given : List String) (a : α)
    (name : String) (document : Document) (entries : List (String × Document)) :
    (TreeReader.recordEntries s whole given a ((name, document) :: entries)).toOption =
      (takeEntry s given a name document).bind fun taken =>
        (TreeReader.recordEntries s whole taken.1 taken.2 entries).toOption := by
  unfold takeEntry
  rw [TreeReader.recordEntries]
  cases s.field? name with
  | none => rfl
  | some field =>
      dsimp only
      split
      · rfl
      · rw [toOption_bind]
        cases field.read.run document <;> rfl

section

variable {r : Record TextReader α} {s : Record (TreeReader Document) α} (agree : r.Agrees n s)

include agree

theorem toOption_finishRecord (whole : Document) (given : List String) (a : α) (rest : Bytes) :
    (TextReader.finishRecord r given a rest).toOption =
      (TreeReader.recordEntries s whole given a []).toOption.map (·, rest) := by
  have missing : r.missing? given = s.missing? given := missing?_of_agrees agree.fields given
  rw [TextReader.finishRecord, TreeReader.recordEntries, missing]
  cases s.missing? given <;> rfl

theorem toOption_recordMember {m depth : Nat} {name : String} {document : Document} {quoted bs rest : Bytes}
    (named : ∀ rest, readName (quoted ++ rest) = .ok (name, rest)) (written : Written m (.value document) bs)
    (shallow : n < depth) (ends : EndsNumber rest) (given : List String) (a : α) :
    (TextReader.recordMember r depth given a (quoted ++ (bs ++ rest))).toOption =
      (takeEntry s given a name document).map (·, rest) := by
  obtain ⟨⟨_, after⟩, string, colon⟩ := bind_eq_ok (named (bs ++ rest))
  obtain ⟨_, colon, same⟩ := bind_eq_ok colon
  cases same
  unfold TextReader.recordMember takeEntry
  rw [string]
  dsimp only [bind, Except.bind]
  rcases find?_of_agrees agree.fields name with ⟨unknown, otherUnknown⟩ | ⟨field, other, known, otherKnown, agrees⟩
  · have skipped : skipValue (fuelFor (bs ++ rest)) (bs ++ rest) = .ok rest :=
      (show SkipsValue bs from written.skips) (by rw [fuelFor, List.length_append]; omega) ends
    simp only [show r.field? name = none from unknown, show s.field? name = none from otherUnknown, colon, skipped]
    rfl
  · simp only [show r.field? name = some field from known, show s.field? name = some other from otherKnown, colon]
    split
    · rfl
    · show (field.read.run depth (bs ++ rest) >>= _ : Reading _).toOption = _
      rw [toOption_bind, agrees.read written shallow ends]
      cases other.read.run document <;> rfl

/-- By induction on the grammar: the members so far have been taken alike. -/
theorem toOption_recordMembers {m depth : Nat} {members : List (String × Document)} {bs : Bytes}
    (written : Written m (.members members) bs) (shallow : n < depth) (whole : Document) {fuel : Nat}
    (enough : bs.length < fuel) (given : List String) (a : α) (rest : Bytes) :
    (TextReader.recordMembers r depth fuel given a (bs ++ rest)).toOption =
      (TreeReader.recordEntries s whole given a members).toOption.map (·, rest) := by
  generalize same : Part.members members = part at written
  induction written generalizing fuel given a members with
  | @blank m part b bs blank _ ih =>
      obtain ⟨fuel, rfl⟩ := fuel_eq_succ enough
      have skipped : TextReader.recordMembers r depth (fuel + 1) given a (b :: (bs ++ rest)) =
          TextReader.recordMembers r depth (fuel + 1) given a (bs ++ rest) := by
        unfold TextReader.recordMembers
        rw [nextMember_of_blank blank]
      rw [List.cons_append, skipped]
      exact ih (Nat.lt_of_succ_lt enough) given a same
  | lastMember =>
      cases same
      obtain ⟨fuel, rfl⟩ := fuel_eq_succ enough
      rw [TextReader.recordMembers]
      exact toOption_finishRecord agree whole given a rest
  | @member m name next others nameText bs more named value members _ ih =>
      cases same
      obtain ⟨fuel, rfl⟩ := fuel_eq_succ enough
      rw [List.length_cons, List.length_append, List.length_append] at enough
      obtain ⟨quoted, -, nextMember, nameRead⟩ := named.reads
      rw [List.cons_append, List.append_assoc, List.append_assoc, TextReader.recordMembers, nextMember]
      show (TextReader.recordMember r depth given a (quoted ++ (bs ++ (more ++ rest))) >>= _ : Reading _).toOption = _
      rw [toOption_bind, toOption_recordMember agree nameRead value shallow (members.endsNumber trivial rest),
        toOption_recordEntries]
      cases takeEntry s given a name next with
      | none => rfl
      | some taken => exact ih (show more.length < fuel by omega) taken.1 taken.2 rfl
  | nullWord | trueWord | falseWord | positive | negative | string | emptyArray | array | emptyObject | object
  | lastItem | item => cases same

theorem toOption_recordMap_of_done {depth : Nat} {bs rest : Bytes} (ends : firstMember bs = .ok (.done rest))
    (whole : Document) :
    (TextReader.recordMap r depth bs).toOption =
      (TreeReader.recordEntries s whole [] s.blank []).toOption.map (·, rest) := by
  rw [TextReader.recordMap, ends, ← agree.blank]
  exact toOption_finishRecord agree whole [] r.blank rest

/-- A record in an object is read entry by entry, as from the members of the object. -/
theorem toOption_recordMap {m depth : Nat} {name : String} {first : Document} {others : List (String × Document)}
    {nameText bs more rest : Bytes} (named : NameText name nameText) (value : Written m (.value first) bs)
    (members : Written m (.members others) more) (shallow : n < depth) (whole : Document) :
    (TextReader.recordMap r depth (nameText ++ (bs ++ (more ++ rest)))).toOption =
      (TreeReader.recordEntries s whole [] s.blank ((name, first) :: others)).toOption.map (·, rest) := by
  obtain ⟨quoted, firstMember, -, nameRead⟩ := named.reads
  rw [TextReader.recordMap, firstMember]
  show (TextReader.recordMember r depth [] r.blank (quoted ++ (bs ++ (more ++ rest))) >>= _ : Reading _).toOption = _
  rw [toOption_bind, toOption_recordMember agree nameRead value shallow (members.endsNumber trivial rest),
    toOption_recordEntries, agree.blank]
  cases takeEntry s [] s.blank name first with
  | none => rfl
  | some taken =>
      exact toOption_recordMembers agree members shallow whole (by rw [fuelFor, List.length_append]; omega) _ _ rest

end

/-! ## Records in lists -/

/-- Without the blanks before it, the text of a part is a text of that part. -/
theorem exists_bare {m : Nat} {part : Part} {bs : Bytes} (written : Written m part bs) :
    ∃ bare, Written m part bare ∧ ∀ rest, skipBlanks (bs ++ rest) = bare ++ rest := by
  induction written with
  | blank blank _ ih =>
      obtain ⟨bare, written, skipped⟩ := ih
      exact ⟨bare, written, fun rest => (skipBlanks_of_blank blank _).trans (skipped rest)⟩
  | positive numeral =>
      refine ⟨_, .positive numeral, fun rest => ?_⟩
      obtain ⟨b, after, rfl, digit⟩ := numeral.eq_cons
      exact skipBlanks_of_not (isBlankOctet_of_digit digit) _
  | nullWord => exact ⟨_, .nullWord, fun _ => rfl⟩
  | trueWord => exact ⟨_, .trueWord, fun _ => rfl⟩
  | falseWord => exact ⟨_, .falseWord, fun _ => rfl⟩
  | lastItem => exact ⟨_, .lastItem, fun _ => rfl⟩
  | lastMember => exact ⟨_, .lastMember, fun _ => rfl⟩
  | negative numeral => exact ⟨_, .negative numeral, fun _ => rfl⟩
  | string quoted => exact ⟨_, .string quoted, fun _ => rfl⟩
  | emptyArray between => exact ⟨_, .emptyArray between, fun _ => rfl⟩
  | array item items => exact ⟨_, .array item items, fun _ => rfl⟩
  | emptyObject between => exact ⟨_, .emptyObject between, fun _ => rfl⟩
  | object named value members => exact ⟨_, .object named value members, fun _ => rfl⟩
  | item item items => exact ⟨_, .item item items, fun _ => rfl⟩
  | member named value members => exact ⟨_, .member named value members, fun _ => rfl⟩

theorem closeList_of_blank {b : UInt8} (blank : isBlankOctet b = true) (bs : Bytes) :
    closeList (b :: bs) = closeList bs := by
  unfold closeList
  rw [skipBlanks_of_blank blank]

theorem toOption_closeList_eq_none {b : UInt8} {bs tail : Bytes} (starts : skipBlanks bs = b :: tail)
    (notClosing : b ≠ 0x5D) : (closeList bs).toOption = none := by
  unfold closeList
  rw [starts]
  split
  · next closes => exact absurd (List.cons.inj closes).1 notClosing
  · split <;> rfl
  · next ends => cases ends
  · rfl

/-- Where `next` looks for an item of a list stands the end of the list, or an item; only at its end can the list be
left. -/
inductive ItemsAt (next : Bytes → Reading Continuation) (m : Nat) (bs : Bytes) : List Document → Prop
  | ends (done : ∀ rest, next (bs ++ rest) = .ok (.done rest)) (closes : ∀ rest, closeList (bs ++ rest) = .ok rest) :
      ItemsAt next m bs []
  | item {document : Document} {items : List Document} {bare more : Bytes} (written : Written m (.value document) bare)
      (others : Written m (.items items) more)
      (goesOn : ∀ rest, next (bs ++ rest) = .ok (.more (bare ++ (more ++ rest))))
      (stays : ∀ rest, (closeList (bs ++ rest)).toOption = none) : ItemsAt next m bs (document :: items)

theorem itemsAt_nextItem {m : Nat} {items : List Document} {bs : Bytes} (written : Written m (.items items) bs) :
    ItemsAt nextItem m bs items := by
  generalize same : Part.items items = part at written
  induction written with
  | blank blank _ ih =>
      cases ih same with
      | ends done closes =>
          exact .ends (fun rest => (nextItem_of_blank blank _).trans (done rest))
            fun rest => (closeList_of_blank blank _).trans (closes rest)
      | item written others goesOn stays =>
          exact .item written others (fun rest => (nextItem_of_blank blank _).trans (goesOn rest))
            fun rest => (congrArg _ (closeList_of_blank blank _)).trans (stays rest)
  | lastItem =>
      cases same
      exact .ends (fun _ => rfl) fun _ => rfl
  | @item m document items bs more written others =>
      cases same
      obtain ⟨bare, bareWritten, skipped⟩ := exists_bare written
      refine .item bareWritten others (fun rest => ?_) fun rest => ?_
      · rw [List.cons_append, List.append_assoc, written.nextItem_append, skipped]
      · exact toOption_closeList_eq_none (skipBlanks_of_not rfl _) (by decide)
  | nullWord | trueWord | falseWord | positive | negative | string | emptyArray | array | emptyObject | object
  | lastMember | member => cases same

theorem itemsAt_emptyArray {m : Nat} {blanks : Bytes} (between : AllBlank blanks) :
    ItemsAt firstItem m (blanks ++ [0x5D]) [] := by
  refine .ends (fun rest => ?_) fun rest => ?_
  · rw [firstItem, List.append_assoc, skipBlanks_append between]
    rfl
  · rw [closeList, List.append_assoc, skipBlanks_append between]
    rfl

theorem itemsAt_array {m : Nat} {first : Document} {others : List Document} {bs more : Bytes}
    (item : Written m (.value first) bs) (items : Written m (.items others) more) :
    ItemsAt firstItem m (bs ++ more) (first :: others) := by
  obtain ⟨bare, written, skipped⟩ := exists_bare item
  obtain ⟨b, after, starts⟩ := item.starts
  refine .item written items (fun rest => ?_) fun rest => ?_
  · rw [List.append_assoc, item.firstItem_append, skipped]
  · rw [List.append_assoc]
    exact toOption_closeList_eq_none (starts.skipped _) starts.notClosing

theorem recordItems_of_done {r : Record TextReader α} {depth index : Nat} {field : Field TextReader α}
    {fields : List (Field TextReader α)} {a : α} {bs rest : Bytes}
    (done : (if index = 0 then firstItem else nextItem) bs = .ok (.done rest)) :
    TextReader.recordItems r depth index a (field :: fields) bs = TextReader.finishSequence r index a rest := by
  rw [TextReader.recordItems]
  split at done
  all_goals
    next first =>
    simp only [first, if_true, if_false, done]
    rfl

theorem recordItems_of_more {r : Record TextReader α} {depth index : Nat} {field : Field TextReader α}
    {fields : List (Field TextReader α)} {a : α} {bs more : Bytes}
    (goesOn : (if index = 0 then firstItem else nextItem) bs = .ok (.more more)) :
    TextReader.recordItems r depth index a (field :: fields) bs = (do
      let (change, rest) ← field.read.run depth more
      TextReader.recordItems r depth (index + 1) (change a) fields rest) := by
  rw [TextReader.recordItems]
  split at goesOn
  all_goals
    next first =>
    simp only [first, if_true, if_false, goesOn]
    rfl

section

variable {r : Record TextReader α} {s : Record (TreeReader Document) α} {fields : List (Field TextReader α)}
  {others : List (Field (TreeReader Document) α)} (agree : List.Forall₂ (Field.Agrees n) fields others)

include agree

theorem toOption_finishSequence {index length : Nat} (place : r.fields.drop index = fields) (whole : Document) (a : α)
    (rest : Bytes) :
    (TextReader.finishSequence r index a rest).toOption =
      (TreeReader.recordItems s whole length index a others []).toOption.map (·, rest) := by
  unfold TextReader.finishSequence
  rw [place, findIdx?_of_agrees agree]
  cases agree with
  | nil => rfl
  | @cons field other fields others first more =>
      rw [TreeReader.recordItems]
      cases (other :: others).findIdx? Field.required <;> rfl

/-- By induction on the fields: those that are left are read from the items that are left. -/
theorem toOption_recordItems {m depth index length : Nat} {items : List Document} {bs : Bytes}
    (given : ItemsAt (if index = 0 then firstItem else nextItem) m bs items) (shallow : n < depth)
    (place : r.fields.drop index = fields) (whole : Document) (a : α) (rest : Bytes) :
    (TextReader.recordItems r depth index a fields (bs ++ rest)).toOption =
      (TreeReader.recordItems s whole length index a others items).toOption.map (·, rest) := by
  induction agree generalizing items bs index a with
  | nil =>
      rw [TextReader.recordItems]
      cases given with
      | ends done closes =>
          rw [closes]
          rfl
      | item _ _ _ stays =>
          rw [toOption_bind, stays]
          rfl
  | @cons field other fields others first more ih =>
      cases given with
      | ends done closes =>
          rw [recordItems_of_done (done rest)]
          exact toOption_finishSequence (.cons first more) place whole a rest
      | @item document items bare others' item itemsWritten goesOn stays =>
          have left : r.fields.drop (index + 1) = fields := by
            rw [← List.drop_drop, place]
            rfl
          have later : ItemsAt (if index + 1 = 0 then firstItem else nextItem) m others' items := by
            rw [if_neg (Nat.succ_ne_zero index)]
            exact itemsAt_nextItem itemsWritten
          rw [recordItems_of_more (goesOn rest), TreeReader.recordItems, toOption_bind,
            first.read item shallow (itemsWritten.endsNumber trivial rest), toOption_bind]
          cases other.read.run document with
          | error misfit => rfl
          | ok change => exact ih later left (change a)

end

/-! ## Records -/

section

variable {r : Record TextReader α} {s : Record (TreeReader Document) α}

theorem run_record_of_blank {b : UInt8} (blank : isBlankOctet b = true) (depth : Nat) (bs : Bytes) :
    (TextReader.record r).run depth (b :: bs) = (TextReader.record r).run depth bs := by
  unfold TextReader.record
  dsimp only
  rw [skipBlanks_of_blank blank]

theorem toOption_run_record_eq_none {b : UInt8} (notBlank : isBlankOctet b = false) (noList : b ≠ 0x5B)
    (noObject : b ≠ 0x7B) (depth : Nat) (bs : Bytes) : ((TextReader.record r).run depth (b :: bs)).toOption = none := by
  unfold TextReader.record
  dsimp only
  rw [skipBlanks_of_not notBlank]
  split
  · next starts => exact absurd (List.cons.inj starts).1 noList
  · next starts => exact absurd (List.cons.inj starts).1 noObject
  · exact toOption_unexpectedValue _ _

theorem toOption_run_record_of_bracket {depth : Nat} (deep : 1 < depth) (bs : Bytes) :
    ((TextReader.record r).run depth (0x5B :: bs)).toOption =
      (TextReader.recordItems r (depth - 1) 0 r.blank r.fields bs).toOption := by
  unfold TextReader.record
  dsimp only
  rw [skipBlanks_of_not rfl]
  show (if depth ≤ 1 then _ else _ : Reading (α × Bytes)).toOption = _
  rw [if_neg (Nat.not_le.mpr deep), toOption_settle]

theorem toOption_run_record_of_brace {depth : Nat} (deep : 1 < depth) (bs : Bytes) :
    ((TextReader.record r).run depth (0x7B :: bs)).toOption = (TextReader.recordMap r (depth - 1) bs).toOption := by
  unfold TextReader.record
  dsimp only
  rw [skipBlanks_of_not rfl]
  show (if depth ≤ 1 then _ else _ : Reading (α × Bytes)).toOption = _
  rw [if_neg (Nat.not_le.mpr deep), toOption_settle]

/-- The text of a list gives the record that the list gives. -/
theorem toOption_run_record_array (agree : r.Agrees n s) {m depth : Nat} {items : List Document} {bs : Bytes}
    (given : ItemsAt firstItem m bs items) (deep : n + 1 < depth) (rest : Bytes) :
    ((TextReader.record r).run depth (0x5B :: (bs ++ rest))).toOption =
      ((TreeReader.record s).run (.array items)).toOption.map (·, rest) := by
  rw [toOption_run_record_of_bracket (by omega), agree.blank]
  exact toOption_recordItems agree.fields (show ItemsAt (if 0 = 0 then firstItem else nextItem) m bs items from given)
    (by omega) rfl _ _ rest

/-- A record whose fields are read alike is read alike, from a list or from an object. -/
theorem agrees_record (agree : r.Agrees n s) : Agrees (n + 1) (TextReader.record r) (TreeReader.record s) := by
  intro m depth document bs rest written deep _
  generalize same : Part.value document = part at written
  induction written with
  | blank blank _ ih => exact (congrArg _ (run_record_of_blank blank _ _)).trans (ih same)
  | emptyArray between =>
      cases same
      exact toOption_run_record_array agree (@itemsAt_emptyArray 0 _ between) deep rest
  | array item items =>
      cases same
      exact toOption_run_record_array agree (itemsAt_array item items) deep rest
  | @emptyObject m blanks between =>
      cases same
      have ends : firstMember (blanks ++ [0x7D] ++ rest) = .ok (.done rest) := by
        rw [firstMember, List.append_assoc, skipBlanks_append between]
        rfl
      rw [List.cons_append, toOption_run_record_of_brace (by omega)]
      exact toOption_recordMap_of_done agree ends _
  | object named value members =>
      cases same
      rw [List.cons_append, List.append_assoc, List.append_assoc, toOption_run_record_of_brace (by omega)]
      exact toOption_recordMap agree named value members (by omega) _
  | positive numeral =>
      cases same
      rw [(toOption_run_number _ _).2.2]
      obtain ⟨b, after, rfl, digit⟩ := numeral.eq_cons
      refine toOption_run_record_eq_none (isBlankOctet_of_digit digit) ?_ ?_ _ _ <;>
        (rintro rfl; cases digit)
  | negative =>
      cases same
      rw [(toOption_run_number _ _).2.2]
      exact toOption_run_record_eq_none rfl (by decide) (by decide) _ _
  | nullWord | trueWord | falseWord | string =>
      cases same
      exact toOption_run_record_eq_none rfl (by decide) (by decide) _ _
  | lastItem | item | lastMember | member => cases same

end

/-! ## Whole texts -/

theorem toOption_parse_textReader (reader : TextReader α) (bs : Bytes) :
    (reader.parse bs).toOption =
      (reader.run depthLimit bs).toOption.bind fun read => (readEnd read.2).toOption.map fun _ => read.1 := by
  unfold TextReader.parse
  cases reader.run depthLimit bs with
  | error failure => rfl
  | ok read =>
      dsimp only [bind, Except.bind, toOption_ok, Option.bind_some]
      cases readEnd read.2 <;> rfl

/-- A whole text of a document is read as the document is. -/
theorem Agrees.toOption_parse {ofText : TextReader α} {ofTree : TreeReader Document α} (agree : Agrees n ofText ofTree)
    (shallow : n < depthLimit) {m : Nat} {document : Document} {bs : Bytes} (text : TextOf m document bs) :
    (ofText.parse bs).toOption = (ofTree.run document).toOption := by
  obtain @⟨bs, blanks, written, after⟩ := text
  have ends : EndsNumber blanks := by
    cases blanks with
    | nil => exact endsNumber_nil
    | cons b blanks => exact endsNumber_of_blank (after b List.mem_cons_self) blanks
  rw [toOption_parse_textReader, agree written shallow ends]
  cases (ofTree.run document).toOption with
  | none => rfl
  | some a =>
      show (readEnd blanks).toOption.map _ = _
      rw [readEnd_of_allBlank after]
      rfl

end Shape

end QueryGateway
