import QueryGateway.Proofs.BatchAgreement

/-!
# The texts of payloads

A payload is written as the object of its query, or as the list of the objects of its queries.  Reading undoes
writing: every text of what is written is read as the same payload, so that no two payloads are written alike, and
what is absent stays distinct from what is empty.
-/

namespace QueryGateway

namespace GraphQL

open Shape

namespace Payload

/-- The queries of a payload in order. -/
def queries : Payload → List Query
  | .single query => [query]
  | .batch queries => queries

/-- The JSON value of a payload: a batch is the list of its queries. -/
def toJson : Payload → Json
  | .single query => query.toJson
  | .batch queries => .array (queries.map Query.toJson)

/-- The variables of every query are read back from every text, as deep as the payload nests them. -/
def IsPortable : Payload → Prop
  | .single query => query.HasPortableVariables
  | .batch queries => ∀ query ∈ queries,
      query.HasPortableVariables ∧ query.toJson.nesting + 1 < Json.depthLimit

end Payload

/-! ## Depth -/

theorem Query.nesting_optionalText (text : Option String) : (Query.optionalText text).nesting = 0 := by
  cases text <;> rfl

/-- A query nests its variables in one more object. -/
theorem Query.nesting_toJson (query : Query) :
    query.toJson.nesting = (Query.optionalMembers query.variableValues).nesting + 1 := by
  have text := Query.nesting_optionalText query.text
  cases name : query.operationName with
  | none =>
      simp only [Query.toJson, name, List.append_nil, Json.nesting, Json.membersNesting, text]
      omega
  | some operationName =>
      simp only [Query.toJson, name, List.cons_append, List.nil_append, Json.nesting, Json.membersNesting, text]
      omega

/-- Variables that hold whole numbers and ordinary names only, and that are nested at most 100 deep, are never too
deep for a payload. -/
theorem Payload.isPortable_of_shallow {payload : Payload}
    (plain : ∀ query ∈ payload.queries, ∀ members, query.variableValues = some members →
      (Json.object members).Ordinary ∧ (Json.object members).Canonical ∧ (Json.object members).nesting ≤ 100) :
    payload.IsPortable := by
  have limit : Json.depthLimit = 128 := rfl
  have portable : ∀ query ∈ payload.queries, query.HasPortableVariables := by
    intro query member members given
    obtain ⟨ordinary, canonical, shallow⟩ := plain query member members given
    exact ⟨ordinary, canonical, by omega⟩
  cases payload with
  | single query => exact portable query List.mem_cons_self
  | batch queries =>
      intro query member
      refine ⟨portable query member, ?_⟩
      rw [query.nesting_toJson]
      cases given : query.variableValues with
      | none => decide
      | some members =>
          have shallow := (plain query member members given).2.2
          show (Json.object members).nesting + 1 + 1 < Json.depthLimit
          omega

/-! ## Reading back -/

/-- Every text of what a payload is written as is read as this payload. -/
theorem Payload.IsPortable.ofBytes_eq {payload : Payload} (portable : payload.IsPortable) {n : Nat} {octets : Bytes}
    (text : Json.TextOf n payload.toJson.document octets) (shallow : n < Json.depthLimit) :
    Payload.ofBytes octets = .ok payload := by
  cases payload with
  | single query =>
      obtain ⟨accepts, -⟩ := ofBytes_of_query text shallow
      exact accepts query portable.readFrom
  | batch queries =>
      obtain ⟨accepts, -⟩ := ofBytes_of_list text shallow
      apply accepts
      apply forall₂_itemDocuments_iff.mpr
      rw [List.forall₂_same]
      intro query member
      exact (portable query member).1.readFrom

theorem Payload.IsPortable.nesting_lt {payload : Payload} (portable : payload.IsPortable) :
    payload.toJson.nesting < Json.depthLimit := by
  cases payload with
  | single query =>
      show query.toJson.nesting < Json.depthLimit
      rw [query.nesting_toJson]
      exact portable.optionalMembers.shallow
  | batch queries => exact itemsNesting_lt fun query member => (portable query member).2

/-- The compact text of a payload is read as this payload. -/
theorem Payload.IsPortable.ofBytes_text {payload : Payload} (portable : payload.IsPortable) :
    Payload.ofBytes (Bytes.ofString payload.toJson.text) = .ok payload :=
  portable.ofBytes_eq (Json.textOf_text (Nat.le_refl _)) portable.nesting_lt

/-- Reading undoes writing: from its compact text, and from every other text of the same value, a payload with
portable variables is read as it was written, one query or as many as there were, in their order.  So no two of
them have one text. -/
theorem payload_read_as_written {payload : Payload} (portable : payload.IsPortable) :
    Payload.ofBytes (Bytes.ofString payload.toJson.text) = .ok payload ∧
      (∀ n octets, Json.TextOf n payload.toJson.document octets → n < Json.depthLimit →
        Payload.ofBytes octets = .ok payload) ∧
      ∀ other : Payload, other.IsPortable → other.toJson.text = payload.toJson.text → other = payload := by
  refine ⟨portable.ofBytes_text, fun n octets text shallow => portable.ofBytes_eq text shallow, ?_⟩
  intro other otherPortable same
  have read := otherPortable.ofBytes_text
  rw [same, portable.ofBytes_text] at read
  exact (Except.ok.inj read).symm

/-- Three queries that differ only in whether a part is absent or empty. -/
def absentAndEmpty : Payload :=
  .batch [⟨none, none, none⟩, ⟨none, some [], none⟩, ⟨none, none, some ""⟩]

theorem isPortable_absentAndEmpty : absentAndEmpty.IsPortable := by
  apply Payload.isPortable_of_shallow
  refine List.forall_mem_cons.mpr ⟨nofun, List.forall_mem_cons.mpr ⟨?_, List.forall_mem_singleton.mpr nofun⟩⟩
  rintro _ ⟨⟩
  exact ⟨trivial, ⟨trivial, trivial⟩, by decide⟩

theorem absent_and_empty_read_as_written :
    Payload.ofBytes (Bytes.ofString absentAndEmpty.toJson.text) = .ok absentAndEmpty :=
  (payload_read_as_written isPortable_absentAndEmpty).1

end GraphQL

end QueryGateway
