import QueryGateway.Proofs.DocumentValues
import QueryGateway.Proofs.PrintedNumbers

/-!
# Printed documents

The printed form of a value is the text of a document, in which numbers are as they are printed.  A value whose
numbers are whole, whose objects are in order and whose names are ordinary is what that document stands for: it is
read back as it was printed.
-/

namespace QueryGateway

namespace Json

/-! ## Documents of values -/

/-- A number as it is printed. -/
def numberDocument : Number → Document
  | .whole n => .number (n.val < 0) (Utf8.encode (Decimal.digitChars n.val.natAbs))
  | .double x =>
    .number x.negative (Utf8.encode ((Decimal.shortest x.magnitude).chars doubleLayout))

mutual

/-- The document that is the printed form of a value. -/
def document : Json → Document
  | .null => .null
  | .bool b => .bool b
  | .number n => numberDocument n
  | .string s => .string s
  | .array items => .array (itemDocuments items)
  | .object members => .object (memberDocuments members)

/-- The documents of items in order. -/
def itemDocuments : List Json → List Document
  | [] => []
  | item :: items => document item :: itemDocuments items

/-- The documents of members in order. -/
def memberDocuments : List (String × Json) → List (String × Document)
  | [] => []
  | (name, value) :: members => (name, document value) :: memberDocuments members

end

mutual

/-- How deep lists and objects are nested in a value. -/
def nesting : Json → Nat
  | .array items => itemsNesting items + 1
  | .object members => membersNesting members + 1
  | _ => 0

/-- The deepest nesting of an item. -/
def itemsNesting : List Json → Nat
  | [] => 0
  | item :: items => max (nesting item) (itemsNesting items)

/-- The deepest nesting of a member. -/
def membersNesting : List (String × Json) → Nat
  | [] => 0
  | (_, value) :: members => max (nesting value) (membersNesting members)

end

/-! ## Printed texts -/

theorem nameText_print (name : String) : NameText name (Utf8.encode (stringChars name ++ [':'])) := by
  have quoted := stringText_print name.toList
  have named := @NameText.intro name [] _ [] nofun quoted nofun
  have printed : Utf8.encode (stringChars name ++ [':']) =
      0x22 :: (Utf8.encode (name.toList.flatMap escapeChar ++ ['"']) ++ [0x3A]) := by
    rw [Utf8.encode_append, stringChars, List.cons_append, Utf8.encode_cons]
    rfl
  rw [printed]
  exact named

theorem written_number {n : Nat} (number : Number) :
    Written n (.value (numberDocument number)) (Utf8.encode (numberChars number)) := by
  cases number with
  | whole w =>
      have numeral := (wholeDigits_digitChars w.val.natAbs).numeral
      simp only [numberDocument, numberChars, wholeChars]
      by_cases minus : w.val < 0
      · rw [if_pos minus, decide_eq_true minus]
        exact .negative numeral
      · rw [if_neg minus, decide_eq_false minus]
        exact .positive numeral
  | double x =>
      have numeral := Decimal.numeral_chars (@Decimal.shortest_exponent_of_zero x.magnitude) doubleLayout
      obtain ⟨negative, magnitude⟩ := x
      cases negative with
      | true => exact .negative numeral
      | false => exact .positive numeral

mutual

/-- The printed form of a value is the text of its document. -/
theorem written_document : ∀ (value : Json) {n : Nat}, value.nesting ≤ n →
    Written n (.value value.document) (Utf8.encode value.chars)
  | .null, _, _ => .nullWord
  | .bool true, _, _ => .trueWord
  | .bool false, _, _ => .falseWord
  | .number printed, _, _ => written_number printed
  | .string s, _, _ => .string (stringText_print s.toList)
  | .array [], n + 1, _ => @Written.emptyArray n [] nofun
  | .array (item :: items), n + 1, shallow => by
      obtain ⟨first, others⟩ := Nat.max_le.mp (Nat.le_of_succ_le_succ shallow)
      have written := Written.array (written_document item first) (written_items items others)
      rw [← Utf8.encode_append] at written
      exact written
  | .object [], n + 1, _ => @Written.emptyObject n [] nofun
  | .object ((name, value) :: members), n + 1, shallow => by
      obtain ⟨first, others⟩ := Nat.max_le.mp (Nat.le_of_succ_le_succ shallow)
      have written := Written.object (nameText_print name) (written_document value first)
        (written_members members others)
      rw [← Utf8.encode_append, ← Utf8.encode_append, List.append_assoc] at written
      exact written

theorem written_items : ∀ (items : List Json) {n : Nat}, itemsNesting items ≤ n →
    Written n (.items (itemDocuments items)) (Utf8.encode (itemsChars items))
  | [], _, _ => .lastItem
  | item :: items, n, shallow => by
      obtain ⟨next, others⟩ := Nat.max_le.mp shallow
      have written := Written.item (written_document item next) (written_items items others)
      rw [← Utf8.encode_append] at written
      exact written

theorem written_members : ∀ (members : List (String × Json)) {n : Nat}, membersNesting members ≤ n →
    Written n (.members (memberDocuments members)) (Utf8.encode (membersChars members))
  | [], _, _ => .lastMember
  | (name, value) :: members, n, shallow => by
      obtain ⟨next, others⟩ := Nat.max_le.mp shallow
      have written := Written.member (nameText_print name) (written_document value next)
        (written_members members others)
      rw [← Utf8.encode_append, ← Utf8.encode_append, List.append_assoc] at written
      exact written

end

/-- The printed form of a value is the whole text of its document. -/
theorem textOf_text {value : Json} {n : Nat} (shallow : value.nesting ≤ n) :
    TextOf n value.document (Bytes.ofString value.text) := by
  have whole := @TextOf.intro n value.document _ [] (written_document value shallow) nofun
  rwa [List.append_nil, ← Bytes.ofString_ofList] at whole

mutual

/-- The document of a value with ordinary names has ordinary names. -/
theorem Ordinary.document : ∀ {value : Json}, value.Ordinary → value.document.Ordinary
  | .null, _ | .bool _, _ | .number (.whole _), _ | .number (.double _), _ | .string _, _ => trivial
  | .array items, ordinary => OrdinaryItems.documents (show OrdinaryItems items from ordinary)
  | .object members, ordinary => OrdinaryMembers.documents (show OrdinaryMembers members from ordinary)

theorem OrdinaryItems.documents : ∀ {items : List Json}, OrdinaryItems items →
    Document.OrdinaryItems (itemDocuments items)
  | [], _ => trivial
  | _ :: _, ⟨first, others⟩ => ⟨first.document, OrdinaryItems.documents others⟩

theorem OrdinaryMembers.documents : ∀ {members : List (String × Json)}, OrdinaryMembers members →
    Document.OrdinaryMembers (memberDocuments members)
  | [], _ => trivial
  | _ :: _, ⟨notEmbedded, first, others⟩ => ⟨notEmbedded, first.document, OrdinaryMembers.documents others⟩

end

/-! ## Values that are read back -/

mutual

/-- Numbers are whole, and the members of every object are in ascending order. -/
def Canonical : Json → Prop
  | .number n => ∃ whole, n = .whole whole
  | .array items => CanonicalItems items
  | .object members => Keyed.Ascending members ∧ CanonicalMembers members
  | _ => True

/-- Every item is canonical. -/
def CanonicalItems : List Json → Prop
  | [] => True
  | item :: items => Canonical item ∧ CanonicalItems items

/-- The value of every member is canonical. -/
def CanonicalMembers : List (String × Json) → Prop
  | [] => True
  | (_, value) :: members => Canonical value ∧ CanonicalMembers members

end

theorem value?_numberDocument (n : WholeNumber) :
    (numberDocument (.whole n)).value? = some (.number (.whole n)) := by
  rw [numberDocument, Document.value?]
  by_cases minus : n.val < 0
  · rw [decide_eq_true minus, readNumber_of_neg minus]
    rfl
  · rw [decide_eq_false minus, readNumber_of_nonneg (Int.not_lt.mp minus)]
    rfl

end Json

theorem Keyed.insert_of_lt {α : Type} {before : Keyed α} {name : String} (value : α)
    (below : ∀ entry ∈ before, entry.1 < name) : before.insert name value = before ++ [(name, value)] := by
  induction before with
  | nil => rfl
  | cons entry before ih =>
      obtain ⟨other, old⟩ := entry
      obtain ⟨first, below⟩ := List.forall_mem_cons.mp below
      rw [Keyed.insert, if_neg (String.lt_asymm first), if_neg (Ne.symm (String.ne_of_lt first)), ih below]
      rfl

namespace Json

mutual

/-- A canonical value with ordinary names is what its document stands for. -/
theorem value?_document : ∀ {value : Json}, value.Ordinary → value.Canonical →
    value.document.value? = some value
  | .null, _, _ | .bool _, _, _ | .string _, _, _ => rfl
  | .number _, _, ⟨whole, same⟩ => by
      rw [same]
      exact value?_numberDocument whole
  | .array items, ordinary, canonical => by
      rw [document, Document.value?, itemValues?_documents ordinary canonical]
      rfl
  | .object [], _, _ => rfl
  | .object ((name, value) :: members), ⟨notEmbedded, ordinary, others⟩, ⟨⟨below, ascending⟩, canonical, more⟩ => by
      rw [document, memberDocuments, Document.value?, if_neg notEmbedded, value?_document ordinary canonical,
        Option.bind_some, memberValues?_documents others more ascending
          (List.forall_mem_singleton.mpr below)]
      rfl

theorem itemValues?_documents : ∀ {items : List Json}, OrdinaryItems items → CanonicalItems items →
    Document.itemValues? (itemDocuments items) = some items
  | [], _, _ => rfl
  | item :: items, ⟨ordinary, others⟩, ⟨canonical, more⟩ => by
      rw [itemDocuments, Document.itemValues?, value?_document ordinary canonical, Option.bind_some,
        itemValues?_documents others more]
      rfl

theorem memberValues?_documents : ∀ {members : List (String × Json)} {before : Members},
    OrdinaryMembers members → CanonicalMembers members → Keyed.Ascending members →
    (∀ entry ∈ before, ∀ member ∈ members, entry.1 < member.1) →
    Document.memberValues? before (memberDocuments members) = some (before ++ members)
  | [], before, _, _, _, _ => by
      rw [List.append_nil]
      rfl
  | (name, value) :: members, before, ⟨_, ordinary, others⟩, ⟨canonical, more⟩, ⟨below, ascending⟩, after => by
      have last : ∀ entry ∈ before, entry.1 < name := fun entry member =>
        after entry member _ List.mem_cons_self
      rw [memberDocuments, Document.memberValues?, value?_document ordinary canonical, Option.bind_some,
        Keyed.insert_of_lt value last, memberValues?_documents others more ascending ?_,
        List.append_assoc]
      · rfl
      · refine List.forall_mem_append.mpr ⟨fun entry member other isLater =>
          after entry member other (List.mem_cons_of_mem _ isLater), List.forall_mem_singleton.mpr below⟩

end

/-! ## Values that every text carries -/

/-- A value that is read back from its text wherever it stands: no name in it stands for a document inside a
string, its numbers are whole, its objects are in order, and an object that holds it may be read. -/
structure Portable (value : Json) : Prop where
  ordinary : value.Ordinary
  canonical : value.Canonical
  shallow : value.nesting + 1 < depthLimit

end Json

end QueryGateway
