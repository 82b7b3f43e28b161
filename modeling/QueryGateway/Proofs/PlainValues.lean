import QueryGateway.Proofs.RecordReading

/-!
# Values that stand for themselves

An object whose only member has the name `Json.embeddedName` stands for a document inside a string.  A value
that was read from a text holds no such object: the reader has put the document in its place.  Other objects in it
may begin with a member of that name, and then the value is unpacked to nothing; otherwise it is unpacked to itself.
-/

namespace QueryGateway.Json

mutual

/-- No object in a value stands for a document inside a string, and the members of each count once. -/
def Plain : Json → Prop
  | .array items => PlainItems items
  | .object members =>
    (∀ value, members ≠ [(embeddedName, value)]) ∧ Keyed.Ascending members ∧ PlainMembers members
  | _ => True

/-- Every item is plain. -/
def PlainItems : List Json → Prop
  | [] => True
  | item :: items => Plain item ∧ PlainItems items

/-- The value of every member is plain. -/
def PlainMembers : List (String × Json) → Prop
  | [] => True
  | (_, value) :: members => Plain value ∧ PlainMembers members

end

theorem PlainItems.of_mem {items : List Json} (plain : PlainItems items) {item : Json} (member : item ∈ items) :
    item.Plain := by
  induction items with
  | nil => cases member
  | cons first items ih =>
      rcases List.mem_cons.mp member with rfl | member
      · exact plain.1
      · exact ih plain.2 member

theorem PlainMembers.insert {members : Members} (plain : PlainMembers members) (name : String)
    {value : Json} (plainValue : value.Plain) : PlainMembers (members.insert name value) := by
  induction members with
  | nil => exact ⟨plainValue, trivial⟩
  | cons member members ih =>
      obtain ⟨other, old⟩ := member
      obtain ⟨plainOld, plainRest⟩ := plain
      unfold Keyed.insert
      split
      · exact ⟨plainValue, plainOld, plainRest⟩
      · split
        · exact ⟨plainValue, plainRest⟩
        · exact ⟨plainOld, ih plainRest⟩

theorem PlainMembers.get? {members : Members} (plain : PlainMembers members) {name : String}
    {value : Json} (found : members.get? name = some value) : value.Plain := by
  induction members with
  | nil => cases found
  | cons member members ih =>
      obtain ⟨other, own⟩ := member
      obtain ⟨plainOwn, plainRest⟩ := plain
      unfold Keyed.get? at found
      split at found
      · rw [← Option.some.inj found]
        exact plainOwn
      · exact ih plainRest found

/-! ## Unpacking -/

mutual

/-- No object in a value begins with a member of the name `embeddedName`. -/
def Legible : Json → Prop
  | .array items => LegibleItems items
  | .object [] => True
  | .object ((name, value) :: members) => name ≠ embeddedName ∧ Legible value ∧ LegibleMembers members
  | _ => True

/-- Every item is legible. -/
def LegibleItems : List Json → Prop
  | [] => True
  | item :: items => Legible item ∧ LegibleItems items

/-- The value of every member is legible. -/
def LegibleMembers : List (String × Json) → Prop
  | [] => True
  | (_, value) :: members => Legible value ∧ LegibleMembers members

end

mutual

/-- A legible value is unpacked to itself. -/
theorem Legible.unpack : ∀ {value : Json}, value.Legible → Shape.unpack value = .ok value
  | .null, _ | .bool _, _ | .number _, _ | .string _, _ => rfl
  | .array items, legible => by
      rw [Shape.unpack, LegibleItems.unpackItems (show LegibleItems items from legible)]
      rfl
  | .object [], _ => rfl
  | .object ((name, value) :: members), ⟨notEmbedded, first, others⟩ => by
      unfold Shape.unpack
      rw [if_neg notEmbedded, first.unpack, LegibleMembers.unpackMembers others]
      rfl

theorem LegibleItems.unpackItems : ∀ {items : List Json}, LegibleItems items →
    Shape.unpackItems items = .ok items
  | [], _ => rfl
  | item :: items, ⟨first, others⟩ => by
      rw [Shape.unpackItems, first.unpack, LegibleItems.unpackItems others]
      rfl

theorem LegibleMembers.unpackMembers : ∀ {members : List (String × Json)}, LegibleMembers members →
    Shape.unpackMembers members = .ok members
  | [], _ => rfl
  | (name, value) :: members, ⟨first, others⟩ => by
      rw [Shape.unpackMembers, first.unpack, LegibleMembers.unpackMembers others]
      rfl

end

mutual

/-- A plain value that is unpacked is legible. -/
theorem Plain.legible : ∀ {value unpacked : Json}, value.Plain → Shape.unpack value = .ok unpacked →
    value.Legible
  | .null, _, _, _ | .bool _, _, _, _ | .number _, _, _, _ | .string _, _, _, _ => trivial
  | .array items, _, plain, done => by
      rw [Shape.unpack] at done
      obtain ⟨read, itemsRead, -⟩ := Shape.map_eq_ok done
      exact PlainItems.legible (show PlainItems items from plain) itemsRead
  | .object [], _, _, _ => trivial
  | .object ((name, value) :: members), _, ⟨notAlone, _, plainValue, plainMembers⟩, done => by
      unfold Shape.unpack at done
      split at done
      · next embedded =>
        subst embedded
        split at done
        · split at done
          · cases done
          · split at done
            · next alone =>
              rw [List.isEmpty_iff] at alone
              rw [alone] at notAlone
              exact absurd rfl (notAlone _)
            · cases done
        · cases done
      · next notEmbedded =>
        obtain ⟨first, valueRead, done⟩ := Shape.bind_eq_ok done
        obtain ⟨rest, membersRead, done⟩ := Shape.bind_eq_ok done
        exact ⟨notEmbedded, plainValue.legible valueRead, PlainMembers.legible plainMembers membersRead⟩

theorem PlainItems.legible : ∀ {items unpacked : List Json}, PlainItems items →
    Shape.unpackItems items = .ok unpacked → LegibleItems items
  | [], _, _, _ => trivial
  | item :: items, _, ⟨plainItem, plainItems⟩, done => by
      rw [Shape.unpackItems] at done
      obtain ⟨first, itemRead, done⟩ := Shape.bind_eq_ok done
      obtain ⟨rest, itemsRead, done⟩ := Shape.bind_eq_ok done
      exact ⟨plainItem.legible itemRead, PlainItems.legible plainItems itemsRead⟩

theorem PlainMembers.legible : ∀ {members unpacked : List (String × Json)}, PlainMembers members →
    Shape.unpackMembers members = .ok unpacked → LegibleMembers members
  | [], _, _, _ => trivial
  | (name, value) :: members, _, ⟨plainValue, plainMembers⟩, done => by
      rw [Shape.unpackMembers] at done
      obtain ⟨first, valueRead, done⟩ := Shape.bind_eq_ok done
      obtain ⟨rest, membersRead, done⟩ := Shape.bind_eq_ok done
      exact ⟨plainValue.legible valueRead, PlainMembers.legible plainMembers membersRead⟩

end

/-- Plain members are unpacked to themselves if they are legible, and to nothing otherwise. -/
theorem PlainMembers.unpackMembers_eq_ok_iff {members unpacked : List (String × Json)}
    (plain : PlainMembers members) :
    Shape.unpackMembers members = .ok unpacked ↔ unpacked = members ∧ LegibleMembers members := by
  constructor
  · intro done
    have legible := plain.legible done
    rw [legible.unpackMembers] at done
    exact ⟨(Except.ok.inj done).symm, legible⟩
  · rintro ⟨rfl, legible⟩
    exact legible.unpackMembers

/-! ## Values that were read -/

/-- A member that no document inside a string starts with. -/
def HasOrdinaryName (members : Members) : Prop := ∃ member ∈ members, member.1 ≠ embeddedName

theorem HasOrdinaryName.ne_singleton {members : Members} (ordinary : HasOrdinaryName members)
    (value : Json) : members ≠ [(embeddedName, value)] := by
  rintro rfl
  obtain ⟨member, isMember, notEmbedded⟩ := ordinary
  rw [List.mem_singleton] at isMember
  subst isMember
  exact notEmbedded rfl

theorem HasOrdinaryName.insert {members : Members} (ordinary : HasOrdinaryName members)
    (name : String) (value : Json) : HasOrdinaryName (members.insert name value) := by
  obtain ⟨⟨other, old⟩, isMember, notEmbedded⟩ := ordinary
  induction members with
  | nil => cases isMember
  | cons first members ih =>
      unfold Keyed.insert
      split
      · exact ⟨_, List.mem_cons_of_mem _ isMember, notEmbedded⟩
      · split
        · next same =>
          rcases List.mem_cons.mp isMember with rfl | isMember
          · exact ⟨_, List.mem_cons_self, by rw [same]; exact notEmbedded⟩
          · exact ⟨_, List.mem_cons_of_mem _ isMember, notEmbedded⟩
        · rcases List.mem_cons.mp isMember with rfl | isMember
          · exact ⟨_, List.mem_cons_self, notEmbedded⟩
          · obtain ⟨member, inside, ordinary⟩ := ih isMember
            exact ⟨member, List.mem_cons_of_mem _ inside, ordinary⟩

/-- What holds of the members of an object while they are read: they do not stand for a document inside a string. -/
structure ReadSoFar (members : Members) : Prop where
  plain : PlainMembers members
  named : HasOrdinaryName members
  ascending : members.Ascending

theorem ReadSoFar.insert {members : Members} (soFar : ReadSoFar members) (name : String) {value : Json}
    (plainValue : value.Plain) : ReadSoFar (members.insert name value) where
  plain := soFar.plain.insert name plainValue
  named := soFar.named.insert name value
  ascending := soFar.ascending.insert name value

/-- With `fuel`, what is read from a text is plain. -/
structure ReadsPlain (fuel : Nat) : Prop where
  value : ∀ {depth : Nat} {bs rest : Bytes} {value : Json},
    readValue true fuel depth bs = .ok (value, rest) → value.Plain
  items : ∀ {depth : Nat} {bs rest : Bytes} {items : List Json},
    readItems true fuel depth bs = .ok (items, rest) → PlainItems items
  members : ∀ {depth : Nat} {bs rest : Bytes} {before after : Members},
    ReadSoFar before → readMembers true fuel depth before bs = .ok (after, rest) → ReadSoFar after
  whole : ∀ {bs : Bytes} {value : Json}, readWhole fuel bs = .ok value → value.Plain

namespace ReadsPlain

variable {fuel : Nat}

theorem zero : ReadsPlain 0 where
  value done := by cases done
  items done := by cases done
  members _ done := by cases done
  whole done := by cases done

/-- Every branch of the reader gives a scalar, or parts that are read with less fuel. -/
theorem value_succ (less : ReadsPlain fuel) {depth : Nat} {bs rest : Bytes} {value : Json}
    (done : readValue true (fuel + 1) depth bs = .ok (value, rest)) : value.Plain := by
  unfold readValue at done
  split at done
  · cases done
  · obtain ⟨_, -, done⟩ := Shape.bind_eq_ok done
    cases done
    trivial
  · obtain ⟨_, -, done⟩ := Shape.bind_eq_ok done
    cases done
    trivial
  · obtain ⟨_, -, done⟩ := Shape.bind_eq_ok done
    cases done
    trivial
  · obtain ⟨_, -, done⟩ := Shape.bind_eq_ok done
    cases done
    trivial
  · obtain ⟨_, -, done⟩ := Shape.bind_eq_ok done
    cases done
    trivial
  · -- a list
    split at done
    · cases done
    obtain ⟨continuation, -, done⟩ := Shape.bind_eq_ok done
    cases continuation with
    | done _ =>
        cases done
        trivial
    | more _ =>
        obtain ⟨⟨first, _⟩, firstRead, done⟩ := Shape.bind_eq_ok done
        obtain ⟨⟨items, _⟩, itemsRead, done⟩ := Shape.bind_eq_ok done
        cases done
        exact ⟨less.value firstRead, less.items itemsRead⟩
  · -- an object, or the document in its place
    split at done
    · cases done
    obtain ⟨continuation, -, done⟩ := Shape.bind_eq_ok done
    cases continuation with
    | done _ =>
        cases done
        exact ⟨fun _ => by simp, trivial, trivial⟩
    | more _ =>
        obtain ⟨⟨name, _⟩, -, done⟩ := Shape.bind_eq_ok done
        dsimp only at done
        split at done
        · obtain ⟨⟨written, _⟩, -, done⟩ := Shape.bind_eq_ok done
          dsimp only at done
          split at done
          · cases done
          · next inner innerRead =>
            obtain ⟨_, -, done⟩ := Shape.bind_eq_ok done
            cases done
            exact less.whole innerRead
        · next ordinary =>
          obtain ⟨⟨first, _⟩, firstRead, done⟩ := Shape.bind_eq_ok done
          obtain ⟨⟨members, _⟩, membersRead, done⟩ := Shape.bind_eq_ok done
          cases done
          have begins : ReadSoFar [(name, first)] :=
            ⟨⟨less.value firstRead, trivial⟩, ⟨_, List.mem_cons_self, by simpa using ordinary⟩, nofun, trivial⟩
          have whole := less.members begins membersRead
          exact ⟨whole.named.ne_singleton, whole.ascending, whole.plain⟩
  · split at done
    · obtain ⟨_, -, done⟩ := Shape.bind_eq_ok done
      cases done
      trivial
    · cases done

theorem items_succ (less : ReadsPlain fuel) {depth : Nat} {bs rest : Bytes} {items : List Json}
    (done : readItems true (fuel + 1) depth bs = .ok (items, rest)) : PlainItems items := by
  unfold readItems at done
  obtain ⟨continuation, -, done⟩ := Shape.bind_eq_ok done
  cases continuation with
  | done _ =>
      cases done
      trivial
  | more _ =>
      obtain ⟨⟨item, _⟩, itemRead, done⟩ := Shape.bind_eq_ok done
      obtain ⟨⟨others, _⟩, itemsRead, done⟩ := Shape.bind_eq_ok done
      cases done
      exact ⟨less.value itemRead, less.items itemsRead⟩

theorem members_succ (less : ReadsPlain fuel) {depth : Nat} {bs rest : Bytes}
    {before after : Members} (soFar : ReadSoFar before)
    (done : readMembers true (fuel + 1) depth before bs = .ok (after, rest)) : ReadSoFar after := by
  unfold readMembers at done
  obtain ⟨continuation, -, done⟩ := Shape.bind_eq_ok done
  cases continuation with
  | done _ =>
      cases done
      exact soFar
  | more _ =>
      obtain ⟨⟨name, _⟩, -, done⟩ := Shape.bind_eq_ok done
      obtain ⟨⟨value, _⟩, valueRead, done⟩ := Shape.bind_eq_ok done
      exact less.members (soFar.insert name (less.value valueRead)) done

theorem whole_succ (less : ReadsPlain fuel) {bs : Bytes} {value : Json}
    (done : readWhole (fuel + 1) bs = .ok value) : value.Plain := by
  unfold readWhole at done
  obtain ⟨⟨read, _⟩, valueRead, done⟩ := Shape.bind_eq_ok done
  obtain ⟨_, -, done⟩ := Shape.bind_eq_ok done
  cases done
  exact less.value valueRead

end ReadsPlain

/-- Whatever the fuel, what is read is plain: the readers call each other with less fuel only. -/
theorem readsPlain (fuel : Nat) : ReadsPlain fuel := by
  induction fuel with
  | zero => exact .zero
  | succ fuel less =>
      exact ⟨less.value_succ, less.items_succ, less.members_succ, less.whole_succ⟩

/-- The value of a text is plain. -/
theorem plain_of_parse {bs : Bytes} {value : Json} (read : parse bs = .ok value) : value.Plain := by
  unfold parse at read
  split at read
  · next whole =>
    cases read
    exact (readsPlain _).whole whole
  · cases read

end QueryGateway.Json
