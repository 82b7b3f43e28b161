import QueryGateway.GraphQL.Query
import QueryGateway.Proofs.PlainValues

/-!
# Queries in values

How a JSON value writes a query, said without the reader: as an object or as a list of its parts.  From a value that
was read from a text, a query is read exactly if the value writes it and its variables are legible.
Main statement: `Query.run_shape_iff`.
-/

namespace QueryGateway

namespace Shape

/-- A record is read from entries with distinct names if every field is read from its entry and no field is
required. -/
theorem TreeReader.exists_recordEntries {δ α : Type} [Tree δ] {r : Record (TreeReader δ) α}
    (optional : ∀ given, r.missing? given = none) {whole : δ} {given : List String} {a : α}
    {entries : List (String × δ)} (distinct : (entries.map Prod.fst).Nodup)
    (fresh : ∀ entry ∈ entries, entry.1 ∉ given)
    (reads : ∀ entry ∈ entries, ∀ field, r.field? entry.1 = some field →
      ∃ change, field.read.run entry.2 = .ok change) :
    ∃ b, recordEntries r whole given a entries = .ok b := by
  induction entries generalizing given a with
  | nil =>
      refine ⟨a, ?_⟩
      rw [recordEntries, optional]
  | cons entry entries ih =>
      obtain ⟨name, d⟩ := entry
      obtain ⟨notLater, distinct⟩ := List.nodup_cons.mp distinct
      obtain ⟨notGiven, fresh⟩ := List.forall_mem_cons.mp fresh
      obtain ⟨readsFirst, reads⟩ := List.forall_mem_cons.mp reads
      unfold recordEntries
      cases known : r.field? name with
      | none => exact ih distinct fresh reads
      | some field =>
          obtain ⟨change, read⟩ := readsFirst field known
          have stillFresh : ∀ entry ∈ entries, entry.1 ∉ name :: given := by
            intro entry member isGiven
            rcases List.mem_cons.mp isGiven with same | isGiven
            · exact notLater (List.mem_map.mpr ⟨entry, member, same⟩)
            · exact fresh entry member isGiven
          simp only [List.contains_iff_mem, if_neg notGiven, read]
          exact ih distinct stillFresh reads

/-- A record is read from a sequence that is not too long if every item is read by its field and no field is
required. -/
theorem TreeReader.exists_recordItems {δ α : Type} [Tree δ] {r : Record (TreeReader δ) α} {whole : δ}
    {length index : Nat} {a : α} {fields : List (Field (TreeReader δ) α)} {items : List δ}
    (optional : ∀ field ∈ fields, field.required = false) (short : items.length ≤ fields.length)
    (reads : ∀ pair ∈ fields.zip items, ∃ change, pair.1.read.run pair.2 = .ok change) :
    ∃ b, recordItems r whole length index a fields items = .ok b := by
  induction fields generalizing items index a with
  | nil =>
      cases items with
      | nil => exact ⟨a, rfl⟩
      | cons d items => exact absurd short (Nat.not_succ_le_zero _)
  | cons field fields ih =>
      cases items with
      | nil =>
          refine ⟨a, ?_⟩
          have none : (field :: fields).findIdx? Field.required = none :=
            List.findIdx?_eq_none_iff.mpr optional
          simp only [recordItems, none]
      | cons d items =>
          obtain ⟨change, read⟩ := reads (field, d) List.mem_cons_self
          rw [recordItems, read]
          exact ih (fun other member => optional other (List.mem_cons_of_mem _ member))
            (Nat.le_of_succ_le_succ short) fun pair member => reads pair (List.mem_cons_of_mem _ member)

end Shape

namespace GraphQL

open Shape

/-! ## Queries in values -/

/-- A part of a document, absent or null or a string, writes an optional text. -/
inductive WritesText : Option Json → Option String → Prop
  | absent : WritesText none none
  | null : WritesText (some .null) none
  | text (s : String) : WritesText (some (.string s)) (some s)

/-- A part of a document, absent or null or an object, writes optional members. -/
inductive WritesMembers : Option Json → Option Members → Prop
  | absent : WritesMembers none none
  | null : WritesMembers (some .null) none
  | members (values : Members) : WritesMembers (some (.object values)) (some values)

/-- A JSON value writes a query. -/
inductive Query.WrittenAs : Json → Query → Prop
  /-- An object gives the parts of the query under their names. -/
  | object {members : Members} {query : Query}
      (text : WritesText (members.get? "query") query.text)
      (variableValues : WritesMembers (members.get? "variables") query.variableValues)
      (operationName : WritesText (members.get? "operationName") query.operationName) :
      Query.WrittenAs (.object members) query
  /-- A list gives the parts of the query in order, and may leave out the last ones. -/
  | list {items : List Json} {query : Query}
      (short : items.length ≤ 3)
      (text : WritesText items[0]? query.text)
      (variableValues : WritesMembers items[1]? query.variableValues)
      (operationName : WritesText items[2]? query.operationName) :
      Query.WrittenAs (.array items) query

theorem WritesText.unique {part : Option Json} {s t : Option String} (first : WritesText part s)
    (second : WritesText part t) : s = t := by
  cases first <;> cases second <;> rfl

theorem WritesMembers.unique {part : Option Json} {s t : Option Members}
    (first : WritesMembers part s) (second : WritesMembers part t) : s = t := by
  cases first <;> cases second <;> rfl

/-- A value writes at most one query. -/
theorem Query.WrittenAs.unique {value : Json} {p q : Query} (first : p.WrittenAs value)
    (second : q.WrittenAs value) : p = q := by
  obtain ⟨pText, pValues, pName⟩ := p
  obtain ⟨qText, qValues, qName⟩ := q
  cases first with
  | object text values name =>
      cases second with
      | object text' values' name' =>
          obtain rfl : pText = qText := text.unique text'
          obtain rfl : pValues = qValues := values.unique values'
          obtain rfl : pName = qName := name.unique name'
          rfl
  | list _ text values name =>
      cases second with
      | list _ text' values' name' =>
          obtain rfl : pText = qText := text.unique text'
          obtain rfl : pValues = qValues := values.unique values'
          obtain rfl : pName = qName := name.unique name'
          rfl

theorem Query.WrittenAs.rightUnique : Relator.RightUnique Query.WrittenAs := fun _ _ _ => unique

/-- The variables of a query, if there are any, are legible. -/
def LegibleVariables (values : Option Members) : Prop :=
  ∀ members, values = some members → Json.LegibleMembers members

/-- A value has the shape of a query: it writes the query, and its variables are legible. -/
structure Query.ShapedAs (value : Json) (query : Query) : Prop where
  written : query.WrittenAs value
  legible : LegibleVariables query.variableValues

theorem Query.ShapedAs.unique {value : Json} {p q : Query} (first : p.ShapedAs value) (second : q.ShapedAs value) :
    p = q := first.written.unique second.written

theorem Query.ShapedAs.rightUnique : Relator.RightUnique Query.ShapedAs := fun _ _ _ => unique

/-! ## Reading queries -/

theorem writesText_of_read {value : Json} {s : Option String}
    (done : (TreeReader.optional TreeReader.text).run value = .ok s) : WritesText (some value) s := by
  cases value with
  | null =>
      cases done
      exact .null
  | string t =>
      cases done
      exact .text t
  | number n => cases n <;> cases done
  | bool b => cases done
  | array items => cases done
  | object members => cases done

theorem writesMembers_of_read {value : Json} (plain : value.Plain) {values : Option Members}
    (done : (TreeReader.optional (JsonFormat.members : TreeReader Json Members)).run value = .ok values) :
    WritesMembers (some value) values ∧ LegibleVariables values := by
  cases value with
  | null =>
      cases done
      exact ⟨.null, nofun⟩
  | object members =>
      obtain ⟨read, membersRead, rfl⟩ := map_eq_ok done
      obtain ⟨rfl, legible⟩ := plain.2.2.unpackMembers_eq_ok_iff.mp (mapError_eq_ok membersRead)
      refine ⟨.members read, ?_⟩
      rintro _ ⟨⟩
      exact legible
  | number n => cases n <;> cases done
  | string t => cases done
  | bool b => cases done
  | array items => cases done

namespace Query

/-- The three parts of a query are all there is: a name is that of one of them. -/
theorem parts_field?_cases {name : String} {field : Field (TreeReader Json) Query}
    (known : parts.field? name = some field) :
    (name = "query" ∧ field.read =
        TreeReader.map (fun text query => { query with text })
          (TreeReader.optional TreeReader.text)) ∨
      (name = "variables" ∧ field.read =
        TreeReader.map (fun variableValues query => { query with variableValues })
          (TreeReader.optional JsonFormat.members)) ∨
      (name = "operationName" ∧ field.read =
        TreeReader.map (fun operationName query => { query with operationName })
          (TreeReader.optional TreeReader.text)) := by
  have named := List.find?_some known
  have member := List.mem_of_find?_eq_some known
  simp only [beq_iff_eq] at named
  rcases member with _ | ⟨_, _ | ⟨_, _ | ⟨_, member⟩⟩⟩
  · exact Or.inl ⟨named.symm, rfl⟩
  · exact Or.inr (Or.inl ⟨named.symm, rfl⟩)
  · exact Or.inr (Or.inr ⟨named.symm, rfl⟩)
  · cases member

theorem parts_reads_query :
    (parts : Record (TreeReader Json) Query).ReadsUnder "query"
      (TreeReader.optional TreeReader.text) Query.text where
  field := ⟨_, _, rfl, rfl, fun _ _ => rfl⟩
  frame := by
    intro other field elsewhere known d change read a
    rcases parts_field?_cases known with ⟨here, -⟩ | ⟨-, reads⟩ | ⟨-, reads⟩
    · exact absurd here elsewhere
    · exact unchanged_of_map reads (fun _ _ => rfl) read a
    · exact unchanged_of_map reads (fun _ _ => rfl) read a

theorem parts_reads_variables :
    (parts : Record (TreeReader Json) Query).ReadsUnder "variables"
      (TreeReader.optional JsonFormat.members) Query.variableValues where
  field := ⟨_, _, rfl, rfl, fun _ _ => rfl⟩
  frame := by
    intro other field elsewhere known d change read a
    rcases parts_field?_cases known with ⟨-, reads⟩ | ⟨here, -⟩ | ⟨-, reads⟩
    · exact unchanged_of_map reads (fun _ _ => rfl) read a
    · exact absurd here elsewhere
    · exact unchanged_of_map reads (fun _ _ => rfl) read a

theorem parts_reads_operationName :
    (parts : Record (TreeReader Json) Query).ReadsUnder "operationName"
      (TreeReader.optional TreeReader.text) Query.operationName where
  field := ⟨_, _, rfl, rfl, fun _ _ => rfl⟩
  frame := by
    intro other field elsewhere known d change read a
    rcases parts_field?_cases known with ⟨-, reads⟩ | ⟨-, reads⟩ | ⟨here, -⟩
    · exact unchanged_of_map reads (fun _ _ => rfl) read a
    · exact unchanged_of_map reads (fun _ _ => rfl) read a
    · exact absurd here elsewhere

theorem writesText_of_given {part : Option Json} {s : Option String}
    (given : Given (TreeReader.optional TreeReader.text) part none s) : WritesText part s := by
  cases part with
  | none =>
      cases (given : s = none)
      exact .absent
  | some value => exact writesText_of_read given

theorem writesMembers_of_given {part : Option Json} (plain : ∀ value, part = some value → value.Plain)
    {values : Option Members}
    (given : Given (TreeReader.optional JsonFormat.members) part none values) :
    WritesMembers part values ∧ LegibleVariables values := by
  cases part with
  | none =>
      cases (given : values = none)
      exact ⟨.absent, nofun⟩
  | some value => exact writesMembers_of_read (plain value rfl) given

theorem shapedAs_of_object {members : Members} {query : Query} (plain : Json.PlainMembers members)
    (done : TreeReader.recordEntries parts (.object members) [] blank members = .ok query) :
    query.ShapedAs (.object members) := by
  have text := (parts_reads_query.of_recordEntries done).2 List.not_mem_nil
  have values := (parts_reads_variables.of_recordEntries done).2 List.not_mem_nil
  have name := (parts_reads_operationName.of_recordEntries done).2 List.not_mem_nil
  obtain ⟨values, legible⟩ := writesMembers_of_given (fun _ found => plain.get? found) values
  exact ⟨.object (writesText_of_given text) values (writesText_of_given name), legible⟩

theorem shapedAs_of_array {items : List Json} {query : Query} (plain : Json.PlainItems items)
    (done : TreeReader.recordItems parts (.array items) items.length 0 blank parts.fields items =
      .ok query) :
    query.ShapedAs (.array items) := by
  rcases items with _ | ⟨first, _ | ⟨second, _ | ⟨third, _ | ⟨fourth, more⟩⟩⟩⟩
  · cases done
    exact ⟨.list (by simp) .absent .absent .absent, nofun⟩
  · obtain ⟨_, read, done⟩ := bind_eq_ok done
    obtain ⟨text, textRead, rfl⟩ := map_eq_ok read
    cases done
    exact ⟨.list (by simp) (writesText_of_read textRead) .absent .absent, nofun⟩
  · obtain ⟨_, read, done⟩ := bind_eq_ok done
    obtain ⟨text, textRead, rfl⟩ := map_eq_ok read
    obtain ⟨_, read, done⟩ := bind_eq_ok done
    obtain ⟨values, valuesRead, rfl⟩ := map_eq_ok read
    cases done
    obtain ⟨writes, legible⟩ := writesMembers_of_read plain.2.1 valuesRead
    exact ⟨.list (by simp) (writesText_of_read textRead) writes .absent, legible⟩
  · obtain ⟨_, read, done⟩ := bind_eq_ok done
    obtain ⟨text, textRead, rfl⟩ := map_eq_ok read
    obtain ⟨_, read, done⟩ := bind_eq_ok done
    obtain ⟨values, valuesRead, rfl⟩ := map_eq_ok read
    obtain ⟨_, read, done⟩ := bind_eq_ok done
    obtain ⟨name, nameRead, rfl⟩ := map_eq_ok read
    cases done
    obtain ⟨writes, legible⟩ := writesMembers_of_read plain.2.1 valuesRead
    exact ⟨.list (by simp) (writesText_of_read textRead) writes (writesText_of_read nameRead), legible⟩
  · -- A fourth item is one too many, whatever the first three are.
    obtain ⟨_, -, done⟩ := bind_eq_ok done
    obtain ⟨_, -, done⟩ := bind_eq_ok done
    obtain ⟨_, -, done⟩ := bind_eq_ok done
    cases done

/-- A plain value that was read as a query has its shape. -/
theorem shapedAs_of_read {value : Json} {query : Query} (plain : value.Plain)
    (done : (shape : TreeReader Json Query).run value = .ok query) : query.ShapedAs value := by
  cases value with
  | object members => exact shapedAs_of_object plain.2.2 done
  | array items => exact shapedAs_of_array plain done
  | number n => cases n <;> cases done
  | null => cases done
  | bool b => cases done
  | string s => cases done

end Query

/-! ## Values that are read -/

theorem read_of_writesText {value : Json} {s : Option String} (writes : WritesText (some value) s) :
    (TreeReader.optional TreeReader.text).run value = .ok s := by
  cases writes <;> rfl

theorem read_of_writesMembers {value : Json} {values : Option Members} (writes : WritesMembers (some value) values)
    (legible : LegibleVariables values) :
    (TreeReader.optional (JsonFormat.members : TreeReader Json Members)).run value = .ok values := by
  cases writes with
  | null => rfl
  | members values =>
      have unpacked : unpackMembers values = .ok values := (legible values rfl).unpackMembers
      show (((unpackMembers values).mapError _).map some : Except Misfit (Option Members)) = _
      rw [unpacked]
      rfl

namespace Query

variable {query : Query}

theorem exists_read_of_object {members : Members} (distinct : members.keys.Nodup)
    (written : query.WrittenAs (.object members)) (legible : LegibleVariables query.variableValues) :
    ∃ read, (shape : TreeReader Json Query).run (.object members) = .ok read := by
  cases written with
  | object text variableValues operationName =>
      refine TreeReader.exists_recordEntries (fun _ => rfl) distinct (fun _ _ => List.not_mem_nil) ?_
      rintro ⟨name, value⟩ member field known
      have found : members.get? name = some value := Keyed.get?_of_mem distinct member
      rcases parts_field?_cases known with ⟨rfl, reads⟩ | ⟨rfl, reads⟩ | ⟨rfl, reads⟩
      · rw [found] at text
        rw [reads]
        exact ⟨_, congrArg (Except.map _) (read_of_writesText text)⟩
      · rw [found] at variableValues
        rw [reads]
        exact ⟨_, congrArg (Except.map _) (read_of_writesMembers variableValues legible)⟩
      · rw [found] at operationName
        rw [reads]
        exact ⟨_, congrArg (Except.map _) (read_of_writesText operationName)⟩

theorem exists_read_of_array {items : List Json} (written : query.WrittenAs (.array items))
    (legible : LegibleVariables query.variableValues) :
    ∃ read, (shape : TreeReader Json Query).run (.array items) = .ok read := by
  cases written with
  | list short text variableValues operationName =>
      refine TreeReader.exists_recordItems (by decide) short ?_
      rcases items with _ | ⟨first, _ | ⟨second, _ | ⟨third, _ | ⟨fourth, more⟩⟩⟩⟩
      · exact nofun
      · exact List.forall_mem_singleton.mpr ⟨_, congrArg (Except.map _) (read_of_writesText text)⟩
      · refine List.forall_mem_cons.mpr ⟨⟨_, congrArg (Except.map _) (read_of_writesText text)⟩, ?_⟩
        exact List.forall_mem_singleton.mpr
          ⟨_, congrArg (Except.map _) (read_of_writesMembers variableValues legible)⟩
      · refine List.forall_mem_cons.mpr ⟨⟨_, congrArg (Except.map _) (read_of_writesText text)⟩, ?_⟩
        refine List.forall_mem_cons.mpr
          ⟨⟨_, congrArg (Except.map _) (read_of_writesMembers variableValues legible)⟩, ?_⟩
        exact List.forall_mem_singleton.mpr
          ⟨_, congrArg (Except.map _) (read_of_writesText operationName)⟩
      · exact absurd short (by simp)

/-- From a plain value, a query is read exactly if the value has its shape. -/
theorem run_shape_iff {value : Json} (plain : value.Plain) :
    (shape : TreeReader Json Query).run value = .ok query ↔ query.ShapedAs value := by
  refine ⟨shapedAs_of_read plain, fun ⟨written, legible⟩ => ?_⟩
  have exists_read : ∃ read, (shape : TreeReader Json Query).run value = .ok read := by
    cases value with
    | object members => exact exists_read_of_object plain.2.1.nodup_keys written legible
    | array items => exact exists_read_of_array written legible
    | null | bool | number | string => cases written
  obtain ⟨read, done⟩ := exists_read
  rw [done, (shapedAs_of_read plain done).written.unique written]

/-- From plain items, queries are read exactly if each item has the shape of its query. -/
theorem mapM_run_shape_iff {items : List Json} (plain : Json.PlainItems items) {queries : List Query} :
    items.mapM (shape : TreeReader Json Query).run = .ok queries ↔ List.Forall₂ ShapedAs items queries := by
  rw [mapM_eq_ok_iff]
  exact forall₂_congr_of_mem fun item member query => run_shape_iff (plain.of_mem member)

end Query

end GraphQL

end QueryGateway
