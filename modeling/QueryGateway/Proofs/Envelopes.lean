import Mathlib.Data.List.Nodup
import QueryGateway.GraphQL.Envelope
import QueryGateway.Http.Message
import QueryGateway.Proofs.GivenFields
import QueryGateway.Proofs.PrintedDocuments

/-!
# Envelopes that are read back

The envelope of a result tells everything about it: what is absent, what is null and what is empty all look different
in it.  A client that parses the text of an envelope and decodes its errors has the result again, as long as the values
in it are of a kind that is read back from its text.
-/

namespace QueryGateway

/-! ## Maps in order -/

namespace Keyed

variable {α : Type} {map : Keyed α}

/-- In ascending order, one value at most has a name. -/
theorem Ascending.valuesOf_eq (ascending : map.Ascending) (name : String) :
    Shape.valuesOf map name = (map.get? name).toList := by
  induction map with
  | nil => rfl
  | cons entry map ih =>
      obtain ⟨other, value⟩ := entry
      obtain ⟨below, ascending⟩ := ascending
      rw [get?]
      by_cases same : other = name
      · subst same
        have none : Shape.valuesOf map other = [] := by
          rw [Shape.valuesOf, List.map_eq_nil_iff, List.filter_eq_nil_iff]
          intro entry later
          simpa using (String.ne_of_lt (below entry later)).symm
        rw [Shape.valuesOf_cons_self, none, if_pos rfl]
        rfl
      · rw [Shape.valuesOf_cons_of_ne same, if_neg same, ih ascending]

end Keyed

/-! ## Values that are read back -/

namespace Json

/-- A value that is read back from its text: its names are ordinary, its numbers whole, its objects in order, and it
is nested at most `n` deep. -/
structure Sound (n : Nat) (value : Json) : Prop where
  ordinary : value.Ordinary
  canonical : value.Canonical
  shallow : value.nesting ≤ n

variable {n : Nat}

theorem Sound.of_le {m : Nat} {value : Json} (sound : value.Sound n) (deeper : n ≤ m) : value.Sound m :=
  ⟨sound.ordinary, sound.canonical, Nat.le_trans sound.shallow deeper⟩

theorem sound_string (s : String) : (string s).Sound n := ⟨trivial, trivial, Nat.zero_le n⟩

theorem sound_whole (w : WholeNumber) : (number (.whole w)).Sound n := ⟨trivial, ⟨w, rfl⟩, Nat.zero_le n⟩

theorem Sound.array {items : List Json} (all : ∀ item ∈ items, item.Sound n) : (array items).Sound (n + 1) := by
  suffices sound : OrdinaryItems items ∧ CanonicalItems items ∧ itemsNesting items ≤ n from
    ⟨sound.1, sound.2.1, Nat.succ_le_succ sound.2.2⟩
  induction items with
  | nil => exact ⟨trivial, trivial, Nat.zero_le n⟩
  | cons item items ih =>
      obtain ⟨first, all⟩ := List.forall_mem_cons.mp all
      obtain ⟨ordinary, canonical, shallow⟩ := ih all
      exact ⟨⟨first.ordinary, ordinary⟩, ⟨first.canonical, canonical⟩, Nat.max_le.mpr ⟨first.shallow, shallow⟩⟩

theorem Sound.object {members : Members} (ascending : members.Ascending)
    (all : ∀ member ∈ members, member.1 ≠ embeddedName ∧ member.2.Sound n) : (object members).Sound (n + 1) := by
  suffices sound : OrdinaryMembers members ∧ CanonicalMembers members ∧ membersNesting members ≤ n from
    ⟨sound.1, ⟨ascending, sound.2.1⟩, Nat.succ_le_succ sound.2.2⟩
  clear ascending
  induction members with
  | nil => exact ⟨trivial, trivial, Nat.zero_le n⟩
  | cons member members ih =>
      obtain ⟨⟨notEmbedded, first⟩, all⟩ := List.forall_mem_cons.mp all
      obtain ⟨ordinary, canonical, shallow⟩ := ih all
      exact ⟨⟨notEmbedded, first.ordinary, ordinary⟩, ⟨first.canonical, canonical⟩,
        Nat.max_le.mpr ⟨first.shallow, shallow⟩⟩

/-- The text of a value that is not nested too deep gives the value back. -/
theorem Sound.parse_eq {value : Json} (sound : value.Sound n) (shallow : n < depthLimit) :
    parse (Bytes.ofString value.text) = .ok value := by
  rw [← toOption_eq_some, (textOf_text sound.shallow).toOption_parse shallow]
  exact value?_document sound.ordinary sound.canonical

end Json

namespace GraphQL

open Shape

/-! ## Members that may be absent -/

/-- The members of names for which there are values. -/
def written (parts : List (String × Option Json)) : Members := parts.flatMap fun part => member part.1 part.2

/-- The names of parts stand in ascending order. -/
def InOrder (parts : List (String × Option Json)) : Prop := (parts.map Prod.fst).Pairwise (· < ·)

theorem mem_member {name : String} {value : Option Json} {entry : String × Json} :
    entry ∈ member name value ↔ (entry.1, some entry.2) = (name, value) := by
  obtain ⟨other, own⟩ := entry
  cases value with
  | none => simp [member]
  | some value => simp [member]

theorem mem_written {parts : List (String × Option Json)} {entry : String × Json} :
    entry ∈ written parts ↔ (entry.1, some entry.2) ∈ parts := by
  simp only [written, List.mem_flatMap, mem_member, exists_eq_right']

theorem InOrder.ascending {parts : List (String × Option Json)} (inOrder : InOrder parts) :
    (written parts).Ascending := by
  rw [Keyed.ascending_iff_pairwise, Keyed.keys, List.pairwise_map, written, List.pairwise_flatMap]
  refine ⟨fun part _ => ?_, (List.pairwise_map.mp inOrder).imp ?_⟩
  · obtain ⟨name, value⟩ := part
    cases value with
    | none => exact .nil
    | some value => exact List.pairwise_singleton _ _
  · intro part other below entry isPart later isOther
    rwa [(Prod.mk.inj (mem_member.mp isPart)).1, (Prod.mk.inj (mem_member.mp isOther)).1]

/-- Under the name of a part stands its value, if it has one. -/
theorem InOrder.get?_eq {parts : List (String × Option Json)} (inOrder : InOrder parts) {name : String}
    {value : Option Json} (part : (name, value) ∈ parts) : (written parts).get? name = value := by
  have distinct : (parts.map Prod.fst).Nodup := inOrder.imp String.ne_of_lt
  ext own
  constructor
  · intro found
    exact (Prod.mk.inj (List.inj_on_of_nodup_map distinct part (mem_written.mp (Keyed.mem_of_get? found)) rfl)).2
  · rintro rfl
    exact Keyed.get?_of_mem inOrder.ascending.nodup_keys (mem_written.mpr part)

theorem InOrder.parts_eq {parts : List (String × Option Json)} (inOrder : InOrder parts) :
    (parts.map Prod.fst).map (fun name => (name, (written parts).get? name)) = parts := by
  rw [List.map_map]
  conv_rhs => rw [← List.map_id parts]
  refine List.map_congr_left fun part isPart => ?_
  rw [Function.comp_apply, inOrder.get?_eq isPart]
  rfl

/-- Members show what each part is. -/
theorem InOrder.written_injective {parts others : List (String × Option Json)} (inOrder : InOrder parts)
    (othersInOrder : InOrder others) (names : parts.map Prod.fst = others.map Prod.fst)
    (same : written parts = written others) : parts = others := by
  rw [← inOrder.parts_eq, ← othersInOrder.parts_eq, names, same]

/-- A list, if it has items. -/
def ifAny {α : Type} (items : List α) : Option (List α) := if items.isEmpty then none else some items

theorem ifAny_eq_some {α : Type} {items given : List α} (same : ifAny items = some given) : given = items := by
  cases items with
  | nil => cases same
  | cons item items => exact (Option.some.inj same).symm

theorem ifAny_injective {α : Type} : Function.Injective (@ifAny α) := by
  intro items others same
  cases items with
  | nil =>
      cases others with
      | nil => rfl
      | cons other others => cases same
  | cons item items => exact ifAny_eq_some same.symm

/-- The value of a list of which every item has a value. -/
def arrayOf {α : Type} (f : α → Json) (items : List α) : Json := .array (items.map f)

theorem arrayOf_injective {α : Type} {f : α → Json} (injective : Function.Injective f) :
    Function.Injective (arrayOf f) := fun _ _ same => List.map_injective_iff.mpr injective (Json.array.inj same)

/-! ## Parts of errors and of results -/

/-- The parts of an error, in the order of their names. -/
def FieldError.parts (error : FieldError) : List (String × Option Json) :=
  [("extensions", error.extensions.map .object),
    ("locations", (ifAny error.locations).map (arrayOf Location.toJson)),
    ("message", some (.string error.message)),
    ("path", error.path.map (arrayOf PathSegment.toJson))]

/-- The parts of a result, in the order of their names. -/
def ExecutionResult.parts (result : ExecutionResult) : List (String × Option Json) :=
  [("data", result.data),
    ("errors", (ifAny result.errors).map (arrayOf FieldError.toJson)),
    ("extensions", result.extensions.map .object)]

theorem FieldError.inOrder (error : FieldError) : InOrder error.parts := by
  show ["extensions", "locations", "message", "path"].Pairwise (· < ·)
  decide

theorem ExecutionResult.inOrder (result : ExecutionResult) : InOrder result.parts := by
  show ["data", "errors", "extensions"].Pairwise (· < ·)
  decide

theorem FieldError.toJson_eq (error : FieldError) : error.toJson = .object (written error.parts) := by
  obtain ⟨message, locations, path, extensions⟩ := error
  cases locations <;> cases path <;> cases extensions <;> rfl

theorem ExecutionResult.toJson_eq (result : ExecutionResult) : result.toJson = .object (written result.parts) := by
  obtain ⟨data, errors, extensions⟩ := result
  cases data <;> cases errors <;> cases extensions <;> rfl

/-! ## Different results have different envelopes -/

theorem wordJson_injective {n m : UInt64} (same : wordJson n = wordJson m) : n = m := by
  have value := congrArg WholeNumber.val (Number.whole.inj (Json.number.inj same))
  exact UInt64.toNat_inj.mp (Int.ofNat.inj value)

theorem Location.toJson_injective {place other : Location} (same : place.toJson = other.toJson) : place = other := by
  obtain ⟨line, column⟩ := place
  obtain ⟨otherLine, otherColumn⟩ := other
  simp only [Location.toJson, Json.object.injEq, List.cons.injEq, Prod.mk.injEq, true_and, and_true] at same
  have columns := congrArg UInt64.toNat (wordJson_injective same.1)
  have lines := congrArg UInt64.toNat (wordJson_injective same.2)
  rw [UInt32.toNat_toUInt64, UInt32.toNat_toUInt64] at columns lines
  rw [UInt32.toNat_inj.mp columns, UInt32.toNat_inj.mp lines]

theorem PathSegment.toJson_injective {step other : PathSegment} (same : step.toJson = other.toJson) :
    step = other := by
  cases step with
  | field name =>
      cases other with
      | field name' => rw [Json.string.inj same]
      | index n => cases same
  | index n =>
      cases other with
      | field name => cases same
      | index m => rw [wordJson_injective same]

theorem FieldError.toJson_injective {error other : FieldError} (same : error.toJson = other.toJson) :
    error = other := by
  rw [FieldError.toJson_eq, FieldError.toJson_eq] at same
  have parts := error.inOrder.written_injective other.inOrder rfl (Json.object.inj same)
  obtain ⟨message, locations, path, extensions⟩ := error
  obtain ⟨message', locations', path', extensions'⟩ := other
  simp only [FieldError.parts, List.cons.injEq, Prod.mk.injEq, true_and, and_true, Option.some.injEq] at parts
  obtain ⟨sameExtensions, sameLocations, sameMessage, samePath⟩ := parts
  rw [Json.string.inj sameMessage, Option.map_injective (@Json.object.inj) sameExtensions,
    ifAny_injective (Option.map_injective (arrayOf_injective @Location.toJson_injective) sameLocations),
    Option.map_injective (arrayOf_injective @PathSegment.toJson_injective) samePath]

theorem ExecutionResult.toJson_injective {result other : ExecutionResult} (same : result.toJson = other.toJson) :
    result = other := by
  rw [ExecutionResult.toJson_eq, ExecutionResult.toJson_eq] at same
  have parts := result.inOrder.written_injective other.inOrder rfl (Json.object.inj same)
  obtain ⟨data, errors, extensions⟩ := result
  obtain ⟨data', errors', extensions'⟩ := other
  simp only [ExecutionResult.parts, List.cons.injEq, Prod.mk.injEq, true_and, and_true] at parts
  obtain ⟨sameData, sameErrors, sameExtensions⟩ := parts
  rw [sameData, ifAny_injective (Option.map_injective (arrayOf_injective @FieldError.toJson_injective) sameErrors),
    Option.map_injective (@Json.object.inj) sameExtensions]

/-! ## Decoding errors -/

theorem view_wordJson (n : UInt64) : Tree.view (wordJson n) = .whole n.toNat := rfl

/-- From the values of items, a list reads the items. -/
theorem run_list {α : Type} {reader : TreeReader Json α} {f : α → Json} {items : List α}
    (reads : ∀ item ∈ items, reader.run (f item) = .ok item) :
    (TreeReader.list reader).run (arrayOf f items) = .ok items := by
  show (items.map f).mapM reader.run = .ok items
  rw [mapM_eq_ok_iff, List.forall₂_map_left_iff, List.forall₂_same]
  exact reads

/-- A part that its value gives back is held under its name. -/
theorem InOrder.holds {β γ : Type} {parts : List (String × Option Json)} (inOrder : InOrder parts) {name : String}
    {part : Option γ} {f : γ → Json} (isPart : (name, part.map f) ∈ parts) {reader : TreeReader Json β} {g : γ → β}
    (reads : ∀ own, part = some own → reader.run (f own) = .ok (g own)) :
    Holds (written parts) name (Reads reader) (part.map g) := by
  have values : valuesOf (written parts) name = (part.map f).toList := by
    rw [inOrder.ascending.valuesOf_eq, inOrder.get?_eq isPart]
  cases part with
  | none => exact values
  | some own => exact ⟨f own, values, reads own rfl⟩

theorem Location.run_shape (place : Location) :
    (Location.shape : TreeReader Json Location).run place.toJson = .ok place := by
  have word (n : UInt32) : Reads (TreeReader.word word32? "u32") n (wordJson n.toUInt64) :=
    run_word (view_wordJson _) (by rw [UInt32.toNat_toUInt64, word32?_toNat])
  let entries : Members := [("column", wordJson place.column.toUInt64), ("line", wordJson place.line.toUInt64)]
  have line : Holds entries "line" (Reads (TreeReader.word word32? "u32")) (some place.line) := ⟨_, rfl, word _⟩
  have column : Holds entries "column" (Reads (TreeReader.word word32? "u32")) (some place.column) := ⟨_, rfl, word _⟩
  unfold Location.shape
  refine Assembles.run_record rfl ⟨by decide, ?_⟩ (.mustGive line id (.mustGive column id .done))
  simp [Field.mustGive]

/-- A value for which there is an answer gives it. -/
theorem run_alternative {α : Type} {name : String} {answer? : Json → Option α} {value : Json} {a : α}
    (answer : answer? value = some a) :
    (JsonFormat.alternative name answer? : TreeReader Json α).run value = .ok a := by
  simp only [JsonFormat.alternative, answer]

theorem PathSegment.run_shape (step : PathSegment) :
    (PathSegment.shape : TreeReader Json PathSegment).run step.toJson = .ok step := by
  refine run_alternative ?_
  cases step with
  | field name => rfl
  | index n =>
      show (word64? n.toNat).map PathSegment.index = _
      rw [word64?_toNat]
      rfl

/-- An error is decoded from its value if its extensions have ordinary names. -/
theorem FieldError.run_shape {error : FieldError}
    (ordinary : ∀ members, error.extensions = some members → Json.OrdinaryMembers members) :
    (FieldError.shape : TreeReader Json FieldError).run error.toJson = .ok error := by
  have message : Holds (written error.parts) "message" (Reads TreeReader.text) (some error.message) :=
    @InOrder.holds _ _ _ error.inOrder _ (some error.message) Json.string (by simp [parts]) _ id fun _ _ => rfl
  have locations : Holds (written error.parts) "locations" (Reads (TreeReader.list Location.shape))
      ((ifAny error.locations).map id) :=
    error.inOrder.holds (by simp [parts]) fun locations _ => run_list fun place _ => place.run_shape
  have path : Holds (written error.parts) "path" (Reads (TreeReader.optional (TreeReader.list PathSegment.shape)))
      (error.path.map some) :=
    error.inOrder.holds (by simp [parts]) fun path _ => run_optional (run_list fun step _ => step.run_shape) nofun
  have extensions : Holds (written error.parts) "extensions" (Reads (TreeReader.optional JsonFormat.members))
      (error.extensions.map some) := by
    refine @InOrder.holds _ _ _ error.inOrder _ error.extensions Json.object (by simp [parts]) _ some ?_
    refine fun members given => run_optional ?_ nofun
    show (unpackMembers members).mapError _ = _
    rw [(ordinary members given).legible.unpackMembers]
    rfl
  rw [FieldError.toJson_eq]
  unfold FieldError.shape
  refine Assembles.run_record rfl ⟨by decide, ?_⟩ (.mustGive message id (.mayGive locations id (.mayGive path id
    (.mayGive extensions id ?_))))
  · simp [Field.mayGive, Field.mustGive]
  · generalize written error.parts = entries
    clear message locations path extensions ordinary
    obtain ⟨message, locations, path, extensions⟩ := error
    cases locations <;> cases path <;> cases extensions <;> exact .done

/-! ## Texts of envelopes -/

/-- Every value in a result is read back from its text, nested at most `n` deep. -/
structure ExecutionResult.Within (n : Nat) (result : ExecutionResult) : Prop where
  data : ∀ value, result.data = some value → value.Sound n
  errors : ∀ error ∈ result.errors, ∀ members, error.extensions = some members → (Json.object members).Sound n
  extensions : ∀ members, result.extensions = some members → (Json.object members).Sound n

theorem InOrder.sound {n : Nat} {parts : List (String × Option Json)} (inOrder : InOrder parts)
    (ordinary : Json.embeddedName ∉ parts.map Prod.fst)
    (all : ∀ part ∈ parts, ∀ value, part.2 = some value → value.Sound n) :
    (Json.object (written parts)).Sound (n + 1) := by
  refine .object inOrder.ascending fun member isMember => ?_
  have isPart := mem_written.mp isMember
  exact ⟨fun embedded => ordinary (embedded ▸ List.mem_map_of_mem isPart), all _ isPart _ rfl⟩

theorem sound_arrayOf {α : Type} {n : Nat} {f : α → Json} {items : List α} (all : ∀ item ∈ items, (f item).Sound n) :
    (arrayOf f items).Sound (n + 1) := .array (List.forall_mem_map.mpr all)

theorem Location.sound (place : Location) : place.toJson.Sound 1 :=
  .object ⟨List.forall_mem_singleton.mpr (show "column" < "line" by decide), nofun, trivial⟩
    (List.forall_mem_cons.mpr ⟨⟨show "column" ≠ Json.embeddedName by decide, Json.sound_whole _⟩,
      List.forall_mem_singleton.mpr ⟨show "line" ≠ Json.embeddedName by decide, Json.sound_whole _⟩⟩)

theorem PathSegment.sound (step : PathSegment) : step.toJson.Sound 0 := by
  cases step with
  | field name => exact Json.sound_string name
  | index n => exact Json.sound_whole _

theorem FieldError.sound {n : Nat} (deep : 2 ≤ n) {error : FieldError}
    (extensions : ∀ members, error.extensions = some members → (Json.object members).Sound n) :
    error.toJson.Sound (n + 1) := by
  rw [FieldError.toJson_eq]
  refine error.inOrder.sound (by show _ ∉ ["extensions", "locations", "message", "path"]; decide) ?_
  simp only [parts, List.forall_mem_cons, Option.map_eq_some_iff]
  refine ⟨?_, ?_, ?_, ?_, nofun⟩
  · rintro value ⟨members, given, rfl⟩
    exact extensions members given
  · rintro value ⟨places, -, rfl⟩
    exact (sound_arrayOf fun place _ => place.sound).of_le deep
  · rintro value ⟨⟩
    exact Json.sound_string _
  · rintro value ⟨path, -, rfl⟩
    exact (sound_arrayOf fun step _ => step.sound).of_le (Nat.le_of_succ_le deep)

theorem ExecutionResult.Within.sound {n : Nat} {result : ExecutionResult} (deep : 2 ≤ n) (within : result.Within n) :
    result.toJson.Sound (n + 3) := by
  rw [ExecutionResult.toJson_eq]
  refine result.inOrder.sound (by show _ ∉ ["data", "errors", "extensions"]; decide) ?_
  simp only [parts, List.forall_mem_cons, Option.map_eq_some_iff]
  refine ⟨?_, ?_, ?_, nofun⟩
  · intro value given
    exact (within.data value given).of_le (Nat.le_add_right n 2)
  · rintro value ⟨errors, given, rfl⟩
    rw [ifAny_eq_some given]
    exact sound_arrayOf fun error among => FieldError.sound deep (within.errors error among)
  · rintro value ⟨members, given, rfl⟩
    exact (within.extensions members given).of_le (Nat.le_add_right n 2)

theorem ExecutionResult.Within.of_le {n m : Nat} {result : ExecutionResult} (within : result.Within n)
    (deeper : n ≤ m) : result.Within m where
  data value given := (within.data value given).of_le deeper
  errors error among members given := (within.errors error among members given).of_le deeper
  extensions members given := (within.extensions members given).of_le deeper

/-- The errors that the members of an envelope give. -/
def errorsIn (members : Members) : Except Misfit (List FieldError) :=
  match members.get? "errors" with
  | none => .ok []
  | some value => (Format.list FieldError.shape : TreeReader Json (List FieldError)).run value

theorem ExecutionResult.Within.errorsIn_eq {n : Nat} {result : ExecutionResult} (within : result.Within n) :
    errorsIn (written result.parts) = .ok result.errors := by
  have errors : (written result.parts).get? "errors" = (ifAny result.errors).map (arrayOf FieldError.toJson) :=
    result.inOrder.get?_eq (by simp [parts])
  rw [errorsIn, errors]
  cases given : ifAny result.errors with
  | none =>
      cases empty : result.errors with
      | nil => rfl
      | cons error errors =>
          rw [empty] at given
          cases given
  | some errors =>
      rw [ifAny_eq_some given]
      exact run_list fun error among => FieldError.run_shape fun members has =>
        (within.errors error among members has).ordinary

/-- The envelope of a result is an object whose members are the data, the errors in order and the extensions, each of
them exactly if the result has it.  Different results have different envelopes.  And if every value in a result is
read back from its text and not nested too deep, the text of the envelope is parsed as that object, from which the
errors are decoded as they were. -/
theorem envelope_is_faithful (result : ExecutionResult) :
    (∃ members : Members, result.toJson = .object members ∧ members.Ascending ∧
      (∀ entry ∈ members, entry.1 ∈ ["data", "errors", "extensions"]) ∧
      members.get? "data" = result.data ∧
      members.get? "errors" =
        (if result.errors.isEmpty then none else some (.array (result.errors.map FieldError.toJson))) ∧
      members.get? "extensions" = result.extensions.map .object ∧
      ∀ n, n + 3 < Json.depthLimit → result.Within n →
        Json.parse (Bytes.ofString (Http.Response.json result.toJson.text).body) = .ok (.object members) ∧
        errorsIn members = .ok result.errors) ∧
    ∀ other : ExecutionResult, other.toJson = result.toJson → other = result := by
  refine ⟨⟨written result.parts, result.toJson_eq, result.inOrder.ascending, fun entry isEntry => ?_, ?_, ?_, ?_,
    fun n shallow within => ⟨?_, within.errorsIn_eq⟩⟩, fun other same => ExecutionResult.toJson_injective same⟩
  · exact @List.mem_map_of_mem _ _ result.parts _ Prod.fst (mem_written.mp isEntry)
  · exact result.inOrder.get?_eq (by simp [ExecutionResult.parts])
  · have errors : (written result.parts).get? "errors" = (ifAny result.errors).map (arrayOf FieldError.toJson) :=
      result.inOrder.get?_eq (by simp [ExecutionResult.parts])
    rw [errors]
    cases result.errors <;> rfl
  · exact result.inOrder.get?_eq (by simp [ExecutionResult.parts])
  · have sound := (within.of_le (Nat.le_max_left n 2)).sound (Nat.le_max_right n 2)
    rw [← result.toJson_eq]
    exact sound.parse_eq (by rw [Json.depthLimit] at shallow ⊢; omega)

/-- A result that mixes what is easily confused: null data, an empty object of extensions, and paths that are absent,
empty or go through a field named as a number. -/
def mixedResult : ExecutionResult :=
  ⟨some .null,
    [⟨"a", [], some [.field "0", .index 0], none⟩, ⟨"b", [⟨1, 2⟩], some [], some []⟩, ⟨"", [], none, none⟩], some []⟩

theorem mixedResult_read_back : ∃ members : Members,
    Json.parse (Bytes.ofString (Http.Response.json mixedResult.toJson.text).body) = .ok (.object members) ∧
      members.get? "data" = some .null ∧ members.get? "extensions" = some (.object []) ∧
      errorsIn members = .ok mixedResult.errors := by
  have empty : (Json.object []).Sound 100 := ⟨trivial, ⟨trivial, trivial⟩, by decide⟩
  obtain ⟨⟨members, -, -, -, data, -, extensions, reads⟩, -⟩ := envelope_is_faithful mixedResult
  obtain ⟨parsed, errors⟩ := reads 100 (by decide)
    { data := by rintro value ⟨⟩; exact ⟨trivial, trivial, by decide⟩
      errors := by
        simp only [mixedResult, List.forall_mem_cons]
        refine ⟨nofun, ?_, nofun, nofun⟩
        rintro members ⟨⟩
        exact empty
      extensions := by rintro members ⟨⟩; exact empty }
  exact ⟨members, parsed, data, extensions, errors⟩

end GraphQL

end QueryGateway
