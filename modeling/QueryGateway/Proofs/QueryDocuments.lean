import QueryGateway.GraphQL.Payload
import QueryGateway.Proofs.PrintedDocuments
import QueryGateway.Proofs.QueryShapes

/-!
# Queries in the texts of documents

How a JSON text writes queries, said of the text and not of the value that is read from it: which of several
members with one name counts, which members are ignored, and what a part may be.  A body is a single query exactly
when its text is an object that writes one, and a batch exactly when its text is a list of which every item writes
one; a scalar is not recognised, and everything else is an invalid body.  An item may write its query as an object
or as a short list of its parts.
-/

namespace QueryGateway

namespace GraphQL

open Shape

/-! ## Documents that write queries -/

/-- A part of a document, absent or null or a string, gives an optional text. -/
inductive GivesText : Option Document → Option String → Prop
  | absent : GivesText none none
  | null : GivesText (some .null) none
  | text (s : String) : GivesText (some (.string s)) (some s)

/-- A part of a document, absent or null or an object, gives optional members. -/
inductive GivesMembers : Option Document → Option Members → Prop
  | absent : GivesMembers none none
  | null : GivesMembers (some .null) none
  | members {members : List (String × Document)} {values : Members}
      (stands : (Document.object members).value? = some (.object values)) :
      GivesMembers (some (.object members)) (some values)

/-- A document writes a query. -/
inductive Query.WrittenIn : Document → Query → Prop
  /-- The last members of three names give the parts of the query; other members are ignored. -/
  | object {members : List (String × Document)} {query : Query}
      (text : GivesText (Document.last? members "query") query.text)
      (variableValues : GivesMembers (Document.last? members "variables") query.variableValues)
      (operationName : GivesText (Document.last? members "operationName") query.operationName) :
      Query.WrittenIn (.object members) query
  /-- A list gives the parts of the query in order, and may leave out the last ones. -/
  | list {items : List Document} {query : Query}
      (short : items.length ≤ 3)
      (text : GivesText items[0]? query.text)
      (variableValues : GivesMembers items[1]? query.variableValues)
      (operationName : GivesText items[2]? query.operationName) :
      Query.WrittenIn (.array items) query

theorem GivesText.unique {part : Option Document} {s t : Option String} (first : GivesText part s)
    (second : GivesText part t) : s = t := by
  cases first <;> cases second <;> rfl

theorem GivesMembers.unique {part : Option Document} {s t : Option Members}
    (first : GivesMembers part s) (second : GivesMembers part t) : s = t := by
  cases first with
  | absent | null =>
      cases second
      rfl
  | members stands =>
      cases second with
      | members stands' =>
          rw [stands] at stands'
          cases stands'
          rfl

/-- A document writes at most one query. -/
theorem Query.WrittenIn.unique {document : Document} {p q : Query} (first : p.WrittenIn document)
    (second : q.WrittenIn document) : p = q := by
  obtain ⟨pText, pValues, pName⟩ := p
  obtain ⟨qText, qValues, qName⟩ := q
  cases first with
  | object text values name =>
      cases second with
      | object text' values' name' =>
          obtain rfl : pText = qText := text.unique text'
          obtain rfl : pValues = qValues := values.unique values'
          obtain rfl : pName = qName := name.unique name'
          rfl
  | list _ text values name =>
      cases second with
      | list _ text' values' name' =>
          obtain rfl : pText = qText := text.unique text'
          obtain rfl : pValues = qValues := values.unique values'
          obtain rfl : pName = qName := name.unique name'
          rfl

theorem givesText_iff {part : Option Document} {value : Option Json}
    (stands : Document.Stands part value) {s : Option String} :
    GivesText part s ↔ WritesText value s := by
  cases stands with
  | absent => exact ⟨fun | .absent => .absent, fun | .absent => .absent⟩
  | given ordinary stands =>
      cases ordinary.sameKind stands with
      | null => exact ⟨fun | .null => .null, fun | .null => .null⟩
      | string t => exact ⟨fun | .text t => .text t, fun | .text t => .text t⟩
      | bool | number | array | object => exact ⟨nofun, nofun⟩

theorem givesMembers_iff {part : Option Document} {value : Option Json}
    (stands : Document.Stands part value) {values : Option Members} :
    GivesMembers part values ↔ WritesMembers value values := by
  cases stands with
  | absent => exact ⟨fun | .absent => .absent, fun | .absent => .absent⟩
  | given ordinary stands =>
      cases ordinary.sameKind stands with
      | null => exact ⟨fun | .null => .null, fun | .null => .null⟩
      | object members found =>
          constructor
          · rintro (_ | _ | others)
            rw [stands] at others
            cases others
            exact .members _
          · rintro (_ | _ | _)
            exact .members stands
      | bool | number | string | array => exact ⟨nofun, nofun⟩

namespace Query

theorem length_of_itemValues? {items : List Document} {values : List Json}
    (stands : Document.itemValues? items = some values) : values.length = items.length := by
  induction items generalizing values with
  | nil =>
      cases stands
      rfl
  | cons item items ih =>
      obtain ⟨value, -, stands⟩ := Option.bind_eq_some_iff.mp stands
      obtain ⟨others, itemsOf, rfl⟩ := Option.map_eq_some_iff.mp stands
      rw [List.length_cons, ih itemsOf, List.length_cons]

/-- A document writes the queries that the value writes which it stands for. -/
theorem writtenIn_iff {document : Document} {value : Json} (ordinary : document.Ordinary)
    (stands : document.value? = some value) {query : Query} :
    query.WrittenIn document ↔ query.WrittenAs value := by
  cases document with
  | object members =>
      rw [Document.value?_object ordinary] at stands
      obtain ⟨values, membersOf, rfl⟩ := Option.map_eq_some_iff.mp stands
      have part := Document.stands_last? ordinary membersOf
      constructor
      · rintro ⟨text, variableValues, operationName⟩
        exact .object ((givesText_iff (part _)).mp text) ((givesMembers_iff (part _)).mp variableValues)
          ((givesText_iff (part _)).mp operationName)
      · rintro ⟨text, variableValues, operationName⟩
        exact .object ((givesText_iff (part _)).mpr text) ((givesMembers_iff (part _)).mpr variableValues)
          ((givesText_iff (part _)).mpr operationName)
  | array items =>
      obtain ⟨values, itemsOf, rfl⟩ := Option.map_eq_some_iff.mp stands
      have part := Document.stands_getElem? (show Document.OrdinaryItems items from ordinary) itemsOf
      have length := length_of_itemValues? itemsOf
      constructor
      · intro written
        cases written with
        | list short text variableValues operationName =>
            exact .list (length ▸ short) ((givesText_iff (part _)).mp text)
              ((givesMembers_iff (part _)).mp variableValues) ((givesText_iff (part _)).mp operationName)
      · intro written
        cases written with
        | list short text variableValues operationName =>
            exact .list (length ▸ short) ((givesText_iff (part _)).mpr text)
              ((givesMembers_iff (part _)).mpr variableValues) ((givesText_iff (part _)).mpr operationName)
  | null | bool | number | string =>
      cases ordinary.sameKind stands
      exact ⟨nofun, nofun⟩

/-- With ordinary names, variables are legible. -/
theorem shapedAs_iff_writtenAs {value : Json} (ordinary : value.Ordinary) {query : Query} :
    query.ShapedAs value ↔ query.WrittenAs value := by
  refine ⟨ShapedAs.written, fun written => ⟨written, fun values given => ?_⟩⟩
  have legible {part : Option Json} (writes : WritesMembers part query.variableValues)
      (known : ∀ own, part = some own → own.Ordinary) : Json.LegibleMembers values := by
    rw [given] at writes
    cases writes
    exact Json.OrdinaryMembers.legible (known _ rfl)
  cases written with
  | object _ variableValues => exact legible variableValues fun _ found => Json.OrdinaryMembers.of_get? ordinary found
  | list _ _ variableValues => exact legible variableValues fun _ found => Json.OrdinaryItems.of_getElem? ordinary found

/-- The value of a document is read as the query that the document writes, and as no other. -/
theorem run_shape_iff_writtenIn {document : Document} {value : Json} (ordinary : document.Ordinary)
    (stands : document.value? = some value) {query : Query} :
    (shape : TreeReader Json Query).run value = .ok query ↔ query.WrittenIn document := by
  obtain ⟨names, plain⟩ := ordinary.value stands
  rw [run_shape_iff plain, shapedAs_iff_writtenAs names, writtenIn_iff ordinary stands]

end Query

/-! ## Payloads -/

/-- A body is read from the text of a document: its names are ordinary, its numbers are in range, and it is not
nested too deep. -/
structure Readable (document : Document) (octets : Bytes) : Prop where
  text : ∃ n < Json.depthLimit, Json.TextOf n document octets
  ordinary : document.Ordinary
  inRange : document.value?.isSome

namespace Payload

/-- A value fits a shape as what is read of it, or the body is invalid. -/
theorem fit_cases {α : Type} (reader : TreeReader Json α) (value : Json) :
    (∃ a, reader.run value = .ok a ∧ fit reader value = .ok a) ∨
      ∃ error, (∀ a, reader.run value ≠ .ok a) ∧ fit reader value = .error (.invalidBody error) := by
  unfold fit
  cases reader.run value with
  | ok a => exact Or.inl ⟨a, rfl, rfl⟩
  | error misfit => exact Or.inr ⟨_, nofun, rfl⟩

/-- The payload of a text is that of the value that its document stands for, or the body is rejected. -/
theorem ofBytes_cases {n : Nat} {document : Document} {octets : Bytes} (text : Json.TextOf n document octets)
    (shallow : n < Json.depthLimit) :
    (∃ value, document.value? = some value ∧ ofBytes octets = ofJson value) ∨
      ∃ rejection, document.value? = none ∧ ofBytes octets = .error rejection := by
  have read := text.toOption_parse shallow
  unfold ofBytes
  cases parsed : Json.parse octets with
  | error error =>
      rw [parsed] at read
      exact Or.inr ⟨_, read.symm, rfl⟩
  | ok value =>
      rw [parsed] at read
      exact Or.inl ⟨value, read.symm, rfl⟩

theorem ofBytes_of_readable {document : Document} {octets : Bytes} (readable : Readable document octets) :
    ∃ value, document.value? = some value ∧ ofBytes octets = ofJson value := by
  obtain ⟨⟨n, shallow, text⟩, -, inRange⟩ := readable
  rcases ofBytes_cases text shallow with found | ⟨_, outOfRange, -⟩
  · exact found
  · rw [outOfRange] at inRange
    cases inRange

/-- The queries of a list are read item by item. -/
theorem run_list_iff {items : List Document} {values : List Json} (ordinary : Document.OrdinaryItems items)
    (stands : Document.itemValues? items = some values) {queries : List Query} :
    values.mapM (Query.shape : TreeReader Json Query).run = .ok queries ↔
      List.Forall₂ (fun item query => query.WrittenIn item) items queries := by
  rw [mapM_eq_ok_iff]
  induction items generalizing values queries with
  | nil =>
      cases stands
      rw [List.forall₂_nil_left_iff, List.forall₂_nil_left_iff]
  | cons item items ih =>
      obtain ⟨value, valueOf, stands⟩ := Option.bind_eq_some_iff.mp stands
      obtain ⟨others, itemsOf, rfl⟩ := Option.map_eq_some_iff.mp stands
      have first {query : Query} := @Query.run_shape_iff_writtenIn _ _ ordinary.1 valueOf query
      simp only [List.forall₂_cons_left_iff, first, ih ordinary.2 itemsOf]

end Payload

section

variable {octets : Bytes} {error : Json.Error}

theorem payload_of_object {members : List (String × Document)}
    (readable : Readable (.object members) octets) :
    (∃ query, query.WrittenIn (.object members) ∧ Payload.ofBytes octets = .ok (.single query)) ∨
      ∃ error, (∀ query : Query, ¬query.WrittenIn (.object members)) ∧
        Payload.ofBytes octets = .error (.invalidBody error) := by
  obtain ⟨value, stands, result⟩ := Payload.ofBytes_of_readable readable
  have reads {query : Query} := @Query.run_shape_iff_writtenIn _ _ readable.ordinary stands query
  rw [Document.value?_object readable.ordinary] at stands
  obtain ⟨values, -, rfl⟩ := Option.map_eq_some_iff.mp stands
  rw [result, Payload.ofJson]
  rcases Payload.fit_cases (Query.shape : TreeReader Json Query) (.object values) with
    ⟨query, read, fits⟩ | ⟨error, unread, misfits⟩
  · exact Or.inl ⟨query, reads.mp read, by rw [fits]; rfl⟩
  · exact Or.inr ⟨error, fun query written => unread query (reads.mpr written), by rw [misfits]; rfl⟩

theorem payload_of_array {items : List Document} (readable : Readable (.array items) octets) :
    (∃ queries, List.Forall₂ (fun item query => Query.WrittenIn item query) items queries ∧
        Payload.ofBytes octets = .ok (.batch queries)) ∨
      ∃ error, (∃ item ∈ items, ∀ query : Query, ¬query.WrittenIn item) ∧
        Payload.ofBytes octets = .error (.invalidBody error) := by
  obtain ⟨value, stands, result⟩ := Payload.ofBytes_of_readable readable
  obtain ⟨values, itemsOf, rfl⟩ := Option.map_eq_some_iff.mp stands
  have reads {queries : List Query} :=
    @Payload.run_list_iff _ _ (show Document.OrdinaryItems items from readable.ordinary) itemsOf queries
  rw [result, Payload.ofJson]
  rcases Payload.fit_cases (Format.list Query.shape : TreeReader Json (List Query)) (.array values) with
    ⟨queries, read, fits⟩ | ⟨error, unread, misfits⟩
  · exact Or.inl ⟨queries, reads.mp read, by rw [fits]; rfl⟩
  · refine Or.inr ⟨error, ?_, by rw [misfits]; rfl⟩
    by_contra none
    have all : ∀ item ∈ items, ∃ query, Query.WrittenIn item query := by
      intro item member
      by_contra unwritten
      exact none ⟨item, member, fun query written => unwritten ⟨query, written⟩⟩
    obtain ⟨queries, written⟩ := exists_forall₂_iff.mpr all
    exact unread queries (reads.mpr written)

theorem payload_of_scalar {document : Document} (readable : Readable document octets)
    (scalar : document.IsScalar) : Payload.ofBytes octets = .error .unrecognizedPayload := by
  obtain ⟨value, stands, result⟩ := Payload.ofBytes_of_readable readable
  rw [result]
  cases document with
  | object members => exact absurd rfl (scalar.1 members)
  | array items => exact absurd rfl (scalar.2 items)
  | null | bool | number | string =>
      cases readable.ordinary.sameKind stands
      rfl

end

/-- The payload of every readable body is that of the text: single exactly for an object that writes a query, a
batch exactly for a list of which every item writes one, in order and none lost, unrecognised exactly for a scalar,
and invalid exactly for an object or a list of another shape.  An item of a list writes its query as an object or
as a list of at most three parts. -/
theorem payload_by_shape {document : Document} {octets : Bytes} (readable : Readable document octets) :
    (∀ query : Query, Payload.ofBytes octets = .ok (.single query) ↔
        (∃ members, document = .object members) ∧ query.WrittenIn document) ∧
      (∀ queries : List Query, Payload.ofBytes octets = .ok (.batch queries) ↔
        ∃ items, document = .array items ∧
          List.Forall₂ (fun item query => Query.WrittenIn item query) items queries) ∧
      (Payload.ofBytes octets = .error .unrecognizedPayload ↔ document.IsScalar) ∧
      ((∃ error, Payload.ofBytes octets = .error (.invalidBody error)) ↔
        ((∃ members, document = .object members) ∧ ∀ query : Query, ¬query.WrittenIn document) ∨
          ∃ items, document = .array items ∧ ∃ item ∈ items, ∀ query : Query, ¬query.WrittenIn item) := by
  cases document with
  | object members =>
      have object : ∃ others, Document.object members = .object others := ⟨members, rfl⟩
      have notScalar : ¬(Document.object members).IsScalar := fun scalar => scalar.1 members rfl
      rcases payload_of_object readable with ⟨query, written, result⟩ | ⟨error, unwritten, result⟩
      · rw [result]
        refine ⟨fun other => ⟨?_, ?_⟩, fun others => ⟨nofun, nofun⟩, ⟨nofun, fun scalar => absurd scalar notScalar⟩,
          ⟨nofun, ?_⟩⟩
        · rintro ⟨⟩
          exact ⟨object, written⟩
        · rintro ⟨-, other⟩
          rw [other.unique written]
        · rintro (⟨-, unwritten⟩ | ⟨items, same, -⟩)
          · exact absurd written (unwritten query)
          · cases same
      · rw [result]
        refine ⟨fun other => ⟨nofun, fun ⟨_, written⟩ => absurd written (unwritten other)⟩,
          fun others => ⟨nofun, nofun⟩, ⟨nofun, fun scalar => absurd scalar notScalar⟩,
          ⟨fun _ => Or.inl ⟨object, unwritten⟩, fun _ => ⟨error, rfl⟩⟩⟩
  | array items =>
      have notScalar : ¬(Document.array items).IsScalar := fun scalar => scalar.2 items rfl
      rcases payload_of_array readable with ⟨queries, written, result⟩ | ⟨error, unwritten, result⟩
      · rw [result]
        refine ⟨fun other => ⟨nofun, nofun⟩, fun others => ⟨?_, ?_⟩,
          ⟨nofun, fun scalar => absurd scalar notScalar⟩, ⟨nofun, ?_⟩⟩
        · rintro ⟨⟩
          exact ⟨items, rfl, written⟩
        · rintro ⟨_, ⟨⟩, other⟩
          have unique : Relator.RightUnique fun item query => Query.WrittenIn item query :=
            fun _ _ _ first second => first.unique second
          rw [List.right_unique_forall₂' unique other written]
        · rintro (⟨⟨_, same⟩, -⟩ | ⟨_, ⟨⟩, item, member, unwritten⟩)
          · cases same
          · obtain ⟨query, wrote⟩ := exists_forall₂_iff.mp ⟨queries, written⟩ item member
            exact absurd wrote (unwritten query)
      · rw [result]
        refine ⟨fun other => ⟨nofun, nofun⟩, fun others => ⟨nofun, ?_⟩,
          ⟨nofun, fun scalar => absurd scalar notScalar⟩,
          ⟨fun _ => Or.inr ⟨items, rfl, unwritten⟩, fun _ => ⟨error, rfl⟩⟩⟩
        rintro ⟨_, ⟨⟩, written⟩
        obtain ⟨item, member, unwritten⟩ := unwritten
        obtain ⟨query, wrote⟩ := exists_forall₂_iff.mp ⟨_, written⟩ item member
        exact absurd wrote (unwritten query)
  | null | bool | number | string =>
      rw [payload_of_scalar readable ⟨nofun, nofun⟩]
      refine ⟨fun _ => ⟨nofun, ?_⟩, fun _ => ⟨nofun, ?_⟩, ⟨fun _ => ⟨nofun, nofun⟩, fun _ => rfl⟩, ⟨nofun, ?_⟩⟩
      · rintro ⟨⟨_, same⟩, -⟩
        cases same
      · rintro ⟨_, same, -⟩
        cases same
      · rintro (⟨⟨_, same⟩, -⟩ | ⟨_, same, -⟩) <;> cases same

/-- A list of which the only item writes its query as a list. -/
def listInList : Json := .array [.array [.string "{a}"]]

theorem readable_listInList : Readable listInList.document (Bytes.ofString listInList.text) where
  text := ⟨2, by decide, Json.textOf_text (Nat.le_refl 2)⟩
  ordinary := ⟨⟨trivial, trivial⟩, trivial⟩
  inRange := rfl

theorem list_in_list_is_batch :
    Payload.ofBytes (Bytes.ofString listInList.text) = .ok (.batch [.ofText "{a}"]) :=
  ((payload_by_shape readable_listInList).2.1 _).mpr
    ⟨_, rfl, .cons (.list (by decide) (.text "{a}") .absent .absent) .nil⟩

/-- A batch may hold items that are not objects. -/
theorem batch_items_not_all_objects :
    ¬∀ (document : Document) (octets : Bytes), Readable document octets → ∀ queries : List Query,
      Payload.ofBytes octets = .ok (.batch queries) →
        ∃ items, document = .array items ∧ ∀ item ∈ items, ∃ members, item = .object members := by
  intro all
  obtain ⟨items, same, objects⟩ := all _ _ readable_listInList [.ofText "{a}"] (by with_unfolding_all rfl)
  cases same
  obtain ⟨members, object⟩ := objects _ List.mem_cons_self
  cases object

end GraphQL

end QueryGateway
