import QueryGateway.Proofs.Documents
import QueryGateway.Proofs.PlainValues

/-!
# What objects stand for

The members of an object count by name: of several members with one name, the last.  A document in which no member
has the name `Json.embeddedName` stands for a value in which none has it either, and such a value is unpacked to
itself.
-/

namespace QueryGateway

open Json

/-! ## Ordinary names -/

namespace Json

mutual

/-- No member of an object has the name `embeddedName`. -/
def Ordinary : Json → Prop
  | .array items => OrdinaryItems items
  | .object members => OrdinaryMembers members
  | _ => True

/-- Every item is ordinary. -/
def OrdinaryItems : List Json → Prop
  | [] => True
  | item :: items => Ordinary item ∧ OrdinaryItems items

/-- No member has the name `embeddedName`, and every value is ordinary. -/
def OrdinaryMembers : List (String × Json) → Prop
  | [] => True
  | (name, value) :: members => name ≠ embeddedName ∧ Ordinary value ∧ OrdinaryMembers members

end

mutual

/-- A value with ordinary names is legible. -/
theorem Ordinary.legible : ∀ {value : Json}, value.Ordinary → value.Legible
  | .null, _ | .bool _, _ | .number _, _ | .string _, _ | .object [], _ => trivial
  | .array items, ordinary => OrdinaryItems.legible (show OrdinaryItems items from ordinary)
  | .object ((_, _) :: _), ⟨notEmbedded, first, others⟩ =>
    ⟨notEmbedded, first.legible, OrdinaryMembers.legible others⟩

theorem OrdinaryItems.legible : ∀ {items : List Json}, OrdinaryItems items → LegibleItems items
  | [], _ => trivial
  | _ :: _, ⟨first, others⟩ => ⟨first.legible, OrdinaryItems.legible others⟩

theorem OrdinaryMembers.legible : ∀ {members : List (String × Json)}, OrdinaryMembers members →
    LegibleMembers members
  | [], _ => trivial
  | _ :: _, ⟨_, first, others⟩ => ⟨first.legible, OrdinaryMembers.legible others⟩

end

theorem OrdinaryMembers.insert {members : Members} (ordinary : OrdinaryMembers members) {name : String}
    (notEmbedded : name ≠ embeddedName) {value : Json} (plain : value.Ordinary) :
    OrdinaryMembers (members.insert name value) := by
  induction members with
  | nil => exact ⟨notEmbedded, plain, trivial⟩
  | cons member members ih =>
      obtain ⟨other, old⟩ := member
      obtain ⟨ordinaryName, ordinaryOld, others⟩ := ordinary
      unfold Keyed.insert
      split
      · exact ⟨notEmbedded, plain, ordinaryName, ordinaryOld, others⟩
      · split
        · exact ⟨notEmbedded, plain, others⟩
        · exact ⟨ordinaryName, ordinaryOld, ih others⟩

theorem OrdinaryMembers.of_get? {members : Members} (ordinary : OrdinaryMembers members) {name : String}
    {value : Json} (found : members.get? name = some value) : value.Ordinary := by
  induction members with
  | nil => cases found
  | cons member members ih =>
      obtain ⟨other, own⟩ := member
      obtain ⟨-, ordinaryOwn, others⟩ := ordinary
      unfold Keyed.get? at found
      split at found
      · rw [← Option.some.inj found]
        exact ordinaryOwn
      · exact ih others found

theorem OrdinaryItems.of_getElem? {items : List Json} (ordinary : OrdinaryItems items) {place : Nat} {value : Json}
    (found : items[place]? = some value) : value.Ordinary := by
  induction items generalizing place with
  | nil => cases found
  | cons item items ih =>
      cases place with
      | zero =>
          cases found
          exact ordinary.1
      | succ place => exact ih ordinary.2 found

end Json

namespace Document

mutual

/-- No member of an object has the name `embeddedName`. -/
def Ordinary : Document → Prop
  | .array items => OrdinaryItems items
  | .object members => OrdinaryMembers members
  | _ => True

/-- Every item is ordinary. -/
def OrdinaryItems : List Document → Prop
  | [] => True
  | item :: items => Ordinary item ∧ OrdinaryItems items

/-- No member has the name `embeddedName`, and every value is ordinary. -/
def OrdinaryMembers : List (String × Document) → Prop
  | [] => True
  | (name, value) :: members => name ≠ embeddedName ∧ Ordinary value ∧ OrdinaryMembers members

end

/-- A document is neither an object nor a list. -/
def IsScalar (document : Document) : Prop :=
  (∀ members, document ≠ .object members) ∧ ∀ items, document ≠ .array items

/-! ## Members by name -/

/-- The last of the members with a name. -/
def last? (members : List (String × Document)) (name : String) : Option Document :=
  (members.filter fun member => member.1 = name).getLast?.map Prod.snd

theorem last?_cons (other name : String) (next : Document) (others : List (String × Document)) :
    last? ((other, next) :: others) name =
      (last? others name).or (if other = name then some next else none) := by
  unfold last?
  by_cases same : other = name
  · rw [List.filter_cons_of_pos (by simpa using same), List.getLast?_cons, if_pos same]
    cases (others.filter fun member => member.1 = name).getLast? <;> rfl
  · rw [List.filter_cons_of_neg (by simpa using same), if_neg same, Option.or_none]

theorem value?_object {members : List (String × Document)} (ordinary : OrdinaryMembers members) :
    (Document.object members).value? = (memberValues? [] members).map .object := by
  cases members with
  | nil => rfl
  | cons member members =>
      obtain ⟨name, first⟩ := member
      rw [value?, if_neg ordinary.1, memberValues?]
      cases first.value? <;> rfl

/-- Under each name stands what the last member of that name stands for, or what was there before. -/
theorem get?_memberValues? {members : List (String × Document)} {before after : Members}
    (stands : memberValues? before members = some after) (name : String) :
    after.get? name =
      match last? members name with
      | none => before.get? name
      | some document => document.value? := by
  induction members generalizing before with
  | nil =>
      cases stands
      rfl
  | cons member members ih =>
      obtain ⟨other, next⟩ := member
      obtain ⟨value, valueOf, stands⟩ := Option.bind_eq_some_iff.mp stands
      rw [ih stands, last?_cons]
      cases last? members name with
      | some document => rfl
      | none =>
          by_cases same : other = name
          · subst same
            rw [Keyed.get?_insert_self, if_pos rfl]
            exact valueOf.symm
          · rw [Keyed.get?_insert_of_ne (Ne.symm same), if_neg same]
            rfl

/-- A document and a value are of one kind. -/
inductive SameKind : Document → Json → Prop
  | null : SameKind .null .null
  | bool (b : Bool) : SameKind (.bool b) (.bool b)
  | number (negative : Bool) (digits : Bytes) (n : Number) : SameKind (.number negative digits) (.number n)
  | string (s : String) : SameKind (.string s) (.string s)
  | array (items : List Document) (values : List Json) : SameKind (.array items) (.array values)
  | object (members : List (String × Document)) (values : Members) : SameKind (.object members) (.object values)

/-- A document with ordinary names stands for a value of its kind. -/
theorem Ordinary.sameKind {document : Document} {value : Json} (ordinary : document.Ordinary)
    (stands : document.value? = some value) : SameKind document value := by
  cases document with
  | null | bool | string =>
      cases stands
      constructor
  | number | array =>
      obtain ⟨_, -, rfl⟩ := Option.map_eq_some_iff.mp stands
      constructor
  | object members =>
      rw [value?_object ordinary] at stands
      obtain ⟨_, -, rfl⟩ := Option.map_eq_some_iff.mp stands
      constructor

/-- Members stand for something if the value of each does. -/
theorem exists_memberValues? {members : List (String × Document)} {before : Members}
    (inRange : ∀ member ∈ members, ∃ value, member.2.value? = some value) :
    ∃ after, memberValues? before members = some after := by
  induction members generalizing before with
  | nil => exact ⟨before, rfl⟩
  | cons member members ih =>
      obtain ⟨⟨value, valueOf⟩, inRange⟩ := List.forall_mem_cons.mp inRange
      rw [memberValues?, valueOf, Option.bind_some]
      exact ih inRange

theorem ascending_memberValues? {members : List (String × Document)} {before after : Members}
    (ascending : before.Ascending) (stands : memberValues? before members = some after) :
    after.Ascending := by
  induction members generalizing before with
  | nil =>
      cases stands
      exact ascending
  | cons member members ih =>
      obtain ⟨value, -, stands⟩ := Option.bind_eq_some_iff.mp stands
      exact ih (ascending.insert _ _) stands

/-! ## Values of ordinary documents -/

theorem plain_of_ordinary {values : Members} (ordinary : Json.OrdinaryMembers values) (ascending : values.Ascending)
    (plain : PlainMembers values) : (Json.object values).Plain := by
  refine ⟨?_, ascending, plain⟩
  rintro value rfl
  exact ordinary.1 rfl

mutual

/-- What a document with ordinary names stands for has ordinary names too, and stands for itself. -/
theorem Ordinary.value : ∀ {document : Document} {value : Json}, document.Ordinary →
    document.value? = some value → value.Ordinary ∧ value.Plain
  | .null, _, _, stands | .bool _, _, _, stands | .string _, _, _, stands => by
      cases stands
      exact ⟨trivial, trivial⟩
  | .number _ _, _, _, stands => by
      obtain ⟨read, -, rfl⟩ := Option.map_eq_some_iff.mp stands
      exact ⟨trivial, trivial⟩
  | .array items, _, ordinary, stands => by
      obtain ⟨values, itemsOf, rfl⟩ := Option.map_eq_some_iff.mp stands
      exact OrdinaryItems.values (show OrdinaryItems items from ordinary) itemsOf
  | .object members, _, ordinary, stands => by
      rw [value?_object ordinary] at stands
      obtain ⟨values, membersOf, rfl⟩ := Option.map_eq_some_iff.mp stands
      have none : Json.OrdinaryMembers [] ∧ PlainMembers [] := ⟨trivial, trivial⟩
      obtain ⟨names, plain⟩ :=
        OrdinaryMembers.values (show OrdinaryMembers members from ordinary) none membersOf
      exact ⟨names, plain_of_ordinary names (ascending_memberValues? (show Keyed.Ascending [] from trivial) membersOf)
        plain⟩

theorem OrdinaryItems.values : ∀ {items : List Document} {values : List Json}, OrdinaryItems items →
    itemValues? items = some values → Json.OrdinaryItems values ∧ PlainItems values
  | [], _, _, stands => by
      cases stands
      exact ⟨trivial, trivial⟩
  | item :: items, _, ⟨first, others⟩, stands => by
      obtain ⟨value, valueOf, stands⟩ := Option.bind_eq_some_iff.mp stands
      obtain ⟨values, itemsOf, rfl⟩ := Option.map_eq_some_iff.mp stands
      obtain ⟨names, plain⟩ := first.value valueOf
      obtain ⟨otherNames, otherPlain⟩ := OrdinaryItems.values others itemsOf
      exact ⟨⟨names, otherNames⟩, plain, otherPlain⟩

theorem OrdinaryMembers.values : ∀ {members : List (String × Document)} {before after : Members},
    OrdinaryMembers members → Json.OrdinaryMembers before ∧ PlainMembers before →
    memberValues? before members = some after → Json.OrdinaryMembers after ∧ PlainMembers after
  | [], _, _, _, known, stands => by
      cases stands
      exact known
  | (name, next) :: members, _, _, ⟨notEmbedded, first, others⟩, known, stands => by
      obtain ⟨value, valueOf, stands⟩ := Option.bind_eq_some_iff.mp stands
      obtain ⟨names, plain⟩ := first.value valueOf
      exact OrdinaryMembers.values others ⟨known.1.insert notEmbedded names, known.2.insert name plain⟩ stands

end

/-! ## Parts -/

/-- A part of a document, with ordinary names, stands for a part of a value, or both are absent. -/
inductive Stands : Option Document → Option Json → Prop
  | absent : Stands none none
  | given {document : Document} {value : Json} (ordinary : document.Ordinary)
      (stands : document.value? = some value) : Stands (some document) (some value)

/-- The last member of a name stands for what is read under that name. -/
theorem stands_last? {members : List (String × Document)} {values : Members}
    (ordinary : OrdinaryMembers members) (stands : memberValues? [] members = some values)
    (name : String) : Stands (last? members name) (values.get? name) := by
  have found : ∀ {members : List (String × Document)} {before after : Members} {document : Document},
      OrdinaryMembers members → memberValues? before members = some after →
      last? members name = some document → document.Ordinary ∧ ∃ value, document.value? = some value := by
    intro members before after document ordinary stands last
    induction members generalizing before with
    | nil => cases last
    | cons member members ih =>
        obtain ⟨other, next⟩ := member
        obtain ⟨-, ordinaryNext, others⟩ := ordinary
        obtain ⟨value, valueOf, stands⟩ := Option.bind_eq_some_iff.mp stands
        rw [last?_cons] at last
        cases later : last? members name with
        | some document' =>
            rw [later] at last
            cases last
            exact ih others stands later
        | none =>
            rw [later, Option.none_or] at last
            split at last
            · cases last
              exact ⟨ordinaryNext, value, valueOf⟩
            · cases last
  have value := get?_memberValues? stands name
  cases last : last? members name with
  | none =>
      rw [last] at value
      rw [value]
      exact .absent
  | some document =>
      obtain ⟨ordinaryDocument, read, readOf⟩ := found ordinary stands last
      rw [last] at value
      rw [value]
      simp only [readOf]
      exact .given ordinaryDocument readOf

/-- The items of a list stand for the items of the list that is read. -/
theorem stands_getElem? {items : List Document} {values : List Json} (ordinary : OrdinaryItems items)
    (stands : itemValues? items = some values) (place : Nat) : Stands items[place]? values[place]? := by
  induction items generalizing values place with
  | nil =>
      cases stands
      exact .absent
  | cons item items ih =>
      obtain ⟨value, valueOf, stands⟩ := Option.bind_eq_some_iff.mp stands
      obtain ⟨others, itemsOf, rfl⟩ := Option.map_eq_some_iff.mp stands
      cases place with
      | zero => exact .given ordinary.1 valueOf
      | succ place => exact ih ordinary.2 itemsOf place

end Document

end QueryGateway
