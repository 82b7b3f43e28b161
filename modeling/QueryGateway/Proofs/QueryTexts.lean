import QueryGateway.Proofs.QueryDocuments

/-!
# The texts of queries

A text of a query is that of an object that writes the query; the payload of every such text is this query.  The
printed form of a query is a text of it, if its variables are read back from their text.
-/

namespace QueryGateway

namespace GraphQL

open Shape

/-- Octets are the text of an object that writes a query. -/
def Query.TextIs (query : Query) (octets : Bytes) : Prop :=
  ∃ members, Readable (.object members) octets ∧ query.WrittenIn (.object members)

/-- The variables of a query, if there are any, are read back from every text. -/
def Query.HasPortableVariables (query : Query) : Prop :=
  ∀ members, query.variableValues = some members → (Json.object members).Portable

section

variable {query : Query} {octets : Bytes}

/-- The payload of the text of a query is this query. -/
theorem Query.TextIs.ofBytes_eq (textIs : query.TextIs octets) :
    Payload.ofBytes octets = .ok (.single query) := by
  obtain ⟨members, readable, written⟩ := textIs
  rcases payload_of_object readable with ⟨other, writtenOther, result⟩ | ⟨error, unwritten, -⟩
  · rw [result, written.unique writtenOther]
  · exact absurd written (unwritten query)

theorem Query.portable_optionalText (text : Option String) : (optionalText text).Portable := by
  have flat : (optionalText text).nesting = 0 := by cases text <;> rfl
  refine ⟨?_, ?_, by rw [flat]; decide⟩ <;> cases text <;> trivial

theorem Query.HasPortableVariables.optionalMembers (portable : query.HasPortableVariables) :
    (Query.optionalMembers query.variableValues).Portable := by
  cases given : query.variableValues with
  | none => exact ⟨trivial, trivial, by decide⟩
  | some members => exact portable members given

theorem givesText_optionalText (text : Option String) :
    GivesText (some (Query.optionalText text).document) text := by
  cases text with
  | none => exact .null
  | some text => exact .text text

theorem Query.HasPortableVariables.givesMembers (portable : query.HasPortableVariables) :
    GivesMembers (some (Query.optionalMembers query.variableValues).document) query.variableValues := by
  cases given : query.variableValues with
  | none => exact .null
  | some members =>
      exact .members (Json.value?_document (portable members given).ordinary (portable members given).canonical)

/-- The printed form of an object with portable members can be read, in whatever order they stand. -/
theorem readable_object {members : List (String × Json)}
    (plain : ∀ member ∈ members, member.1 ≠ Json.embeddedName ∧ member.2.Portable) :
    Readable (.object (Json.memberDocuments members)) (Bytes.ofString (Json.object members).text) := by
  -- The members are not in ascending order, so the object is not canonical, though each member is.
  have facts : Json.OrdinaryMembers members ∧ Json.membersNesting members + 1 < Json.depthLimit ∧
      ∀ member ∈ Json.memberDocuments members, ∃ value, member.2.value? = some value := by
    induction members with
    | nil => exact ⟨trivial, by decide, nofun⟩
    | cons member members ih =>
        obtain ⟨⟨notEmbedded, portable⟩, plain⟩ := List.forall_mem_cons.mp plain
        obtain ⟨ordinary, shallow, stands⟩ := ih plain
        refine ⟨⟨notEmbedded, portable.ordinary, ordinary⟩, ?_, List.forall_mem_cons.mpr
          ⟨⟨_, Json.value?_document portable.ordinary portable.canonical⟩, stands⟩⟩
        have deep := portable.shallow
        rw [Json.membersNesting]
        omega
  obtain ⟨ordinary, shallow, stands⟩ := facts
  have ordinaryDocuments : Document.OrdinaryMembers (Json.memberDocuments members) := ordinary.documents
  refine ⟨⟨_, shallow, @Json.textOf_text (.object members) _ (Nat.le_refl _)⟩, ordinaryDocuments, ?_⟩
  obtain ⟨values, membersOf⟩ := Document.exists_memberValues? stands
  rw [Document.value?_object ordinaryDocuments, membersOf]
  rfl

theorem Query.HasPortableVariables.readable (portable : query.HasPortableVariables) :
    Readable query.toJson.document (Bytes.ofString query.toJson.text) := by
  have queryName : "query" ≠ Json.embeddedName := by decide
  have variablesName : "variables" ≠ Json.embeddedName := by decide
  have operationName : "operationName" ≠ Json.embeddedName := by decide
  refine readable_object (List.forall_mem_append.mpr ⟨List.forall_mem_cons.mpr
    ⟨⟨queryName, portable_optionalText _⟩, List.forall_mem_singleton.mpr ⟨variablesName, portable.optionalMembers⟩⟩,
    ?_⟩)
  cases query.operationName with
  | none => exact nofun
  | some name => exact List.forall_mem_singleton.mpr ⟨operationName, portable_optionalText (some name)⟩

/-- The printed form of a query writes it. -/
theorem Query.HasPortableVariables.writtenIn (portable : query.HasPortableVariables) :
    query.WrittenIn query.toJson.document := by
  have gives := portable.givesMembers
  obtain ⟨text, values, operation⟩ := query
  cases operation with
  | none => exact .object (givesText_optionalText text) gives .absent
  | some name => exact .object (givesText_optionalText text) gives (.text name)

/-- The printed form of a query is a text of it. -/
theorem Query.HasPortableVariables.textIs (portable : query.HasPortableVariables) :
    query.TextIs (Bytes.ofString query.toJson.text) :=
  ⟨_, portable.readable, portable.writtenIn⟩

end

end GraphQL

end QueryGateway
