import Mathlib.Data.List.Forall2
import QueryGateway.Shape.OfTree

/-!
# What a record that was read holds

A record that was read from a map holds under each field what was read from the first entry of its name, and
what the blank record holds if there is no such entry.  A list that was read holds what was read from its
items, in order.
-/

namespace QueryGateway.Shape

/-- A computation that succeeds has succeeded with its first part. -/
theorem bind_eq_ok {ε α β : Type} {first : Except ε α} {rest : α → Except ε β} {b : β}
    (done : (first >>= rest) = .ok b) : ∃ a, first = .ok a ∧ rest a = .ok b := by
  cases first with
  | error e => cases done
  | ok a => exact ⟨a, rfl, done⟩

theorem map_eq_ok {ε α β : Type} {f : α → β} {first : Except ε α} {b : β}
    (done : first.map f = .ok b) : ∃ a, first = .ok a ∧ f a = b := by
  cases first with
  | error e => cases done
  | ok a => exact ⟨a, rfl, Except.ok.inj done⟩

theorem mapError_eq_ok {ε ε' α : Type} {f : ε → ε'} {first : Except ε α} {a : α}
    (done : first.mapError f = .ok a) : first = .ok a := by
  cases first with
  | error e => cases done
  | ok a => exact congrArg Except.ok (Except.ok.inj done)

/-- Of two lists that are related item by item, each item of the first one is related to one of the second. -/
theorem exists_of_forall₂ {α β : Type} {R : α → β → Prop} {as : List α} {bs : List β} (all : List.Forall₂ R as bs)
    {a : α} (member : a ∈ as) : ∃ b ∈ bs, R a b := by
  induction all with
  | nil => cases member
  | cons first _ ih =>
      rcases List.mem_cons.mp member with rfl | member
      · exact ⟨_, List.mem_cons_self, first⟩
      · obtain ⟨b, isOther, related⟩ := ih member
        exact ⟨b, List.mem_cons_of_mem _ isOther, related⟩

/-- Each of some items is related to something exactly if all of them are to a list. -/
theorem exists_forall₂_iff {α β : Type} {R : α → β → Prop} {items : List α} :
    (∃ bs, List.Forall₂ R items bs) ↔ ∀ item ∈ items, ∃ b, R item b := by
  induction items with
  | nil => exact ⟨fun _ => nofun, fun _ => ⟨[], .nil⟩⟩
  | cons item items ih =>
      rw [List.forall_mem_cons, ← ih]
      constructor
      · rintro ⟨_, _ | ⟨first, others⟩⟩
        exact ⟨⟨_, first⟩, _, others⟩
      · rintro ⟨⟨b, first⟩, bs, others⟩
        exact ⟨b :: bs, .cons first others⟩

/-- Items that are related to the same things are related to the same lists. -/
theorem forall₂_congr_of_mem {α β : Type} {R S : α → β → Prop} {as : List α}
    (same : ∀ a ∈ as, ∀ b, R a b ↔ S a b) {bs : List β} : List.Forall₂ R as bs ↔ List.Forall₂ S as bs := by
  simp only [List.forall₂_iff_zip]
  refine and_congr_right fun _ => ⟨fun all a b pair => ?_, fun all a b pair => ?_⟩
  · exact (same a (List.of_mem_zip pair).1 b).mp (all pair)
  · exact (same a (List.of_mem_zip pair).1 b).mpr (all pair)

/-- A list is read item by item. -/
theorem mapM_eq_ok_iff {ε α β : Type} {f : α → Except ε β} {items : List α} {read : List β} :
    items.mapM f = .ok read ↔ List.Forall₂ (fun item b => f item = .ok b) items read := by
  induction items generalizing read with
  | nil =>
      rw [List.mapM_nil, List.forall₂_nil_left_iff]
      exact ⟨fun done => (Except.ok.inj done).symm, fun none => congrArg Except.ok none.symm⟩
  | cons item items ih =>
      rw [List.mapM_cons]
      constructor
      · intro done
        obtain ⟨b, first, done⟩ := bind_eq_ok done
        obtain ⟨bs, others, done⟩ := bind_eq_ok done
        cases done
        exact .cons first (ih.mp others)
      · rintro (_ | ⟨first, others⟩)
        rw [first, ih.mpr others]
        rfl

/-! ## Fields of records -/

variable {δ α β : Type}

/-- What a field changes leaves the rest as it is. -/
theorem unchanged_of_map {γ : Type} {field : Field (TreeReader δ) α} {set : γ → α → α}
    {reader : TreeReader δ γ} {get : α → β} (reads : field.read = TreeReader.map set reader)
    (keeps : ∀ c a, get (set c a) = get a) {d : δ} {change : α → α}
    (done : field.read.run d = .ok change) (a : α) : get (change a) = get a := by
  rw [reads] at done
  obtain ⟨c, -, rfl⟩ := map_eq_ok done
  exact keeps c a

variable [Tree δ]

/-- `get` looks at the one field of `r` that `reader` reads under `name`. -/
structure Record.ReadsUnder (r : Record (TreeReader δ) α) (name : String) (reader : TreeReader δ β)
    (get : α → β) : Prop where
  field : ∃ field set, r.field? name = some field ∧ field.read = TreeReader.map set reader ∧
    ∀ b a, get (set b a) = b
  frame : ∀ {other : String} {field : Field (TreeReader δ) α}, other ≠ name →
    r.field? other = some field → ∀ {d : δ} {change : α → α}, field.read.run d = .ok change →
    ∀ a, get (change a) = get a

/-- What is under a name in a record: what `reader` makes of the entry, or what was there before. -/
def Given (reader : TreeReader δ β) (entry : Option δ) (before after : β) : Prop :=
  match entry with
  | none => after = before
  | some d => reader.run d = .ok after

/-- A record that was read holds under a name what its first entry of that name gives; once a name was given,
no entry gives it again. -/
theorem Record.ReadsUnder.of_recordEntries {r : Record (TreeReader δ) α} {name : String}
    {reader : TreeReader δ β} {get : α → β} (reads : r.ReadsUnder name reader get) {whole : δ}
    {given : List String} {a b : α} {entries : List (String × δ)}
    (done : TreeReader.recordEntries r whole given a entries = .ok b) :
    (name ∈ given → get b = get a) ∧
      (name ∉ given → Given reader (Keyed.get? entries name) (get a) (get b)) := by
  induction entries generalizing given a with
  | nil =>
      have same : b = a := by
        unfold TreeReader.recordEntries at done
        split at done
        · cases done
        · exact (Except.ok.inj done).symm
      rw [same]
      exact ⟨fun _ => rfl, fun _ => rfl⟩
  | cons entry entries ih =>
      obtain ⟨other, d⟩ := entry
      obtain ⟨own, set, ownField, ownRead, getSet⟩ := reads.field
      unfold TreeReader.recordEntries at done
      simp only [Keyed.get?]
      split at done
      · next field known =>
        split at done
        · cases done
        next notGiven =>
        obtain ⟨change, read, done⟩ := bind_eq_ok done
        have fits := mapError_eq_ok read
        rw [List.contains_iff_mem] at notGiven
        by_cases here : other = name
        · subst here
          rw [if_pos rfl]
          rw [ownField] at known
          cases known
          rw [ownRead] at fits
          obtain ⟨value, valueRead, rfl⟩ := map_eq_ok fits
          refine ⟨fun isGiven => absurd isGiven notGiven, fun _ => ?_⟩
          have kept := (ih done).1 List.mem_cons_self
          rw [getSet] at kept
          show reader.run d = .ok (get b)
          rw [kept, valueRead]
        · rw [if_neg here]
          have unchanged := reads.frame here known fits a
          obtain ⟨kept, read⟩ := ih done
          rw [unchanged] at kept read
          refine ⟨fun isGiven => kept (List.mem_cons_of_mem _ isGiven), fun isNew => read ?_⟩
          intro member
          rcases List.mem_cons.mp member with same | member
          · exact here same.symm
          · exact isNew member
      · next unknown =>
        have elsewhere : other ≠ name := by
          rintro rfl
          rw [ownField] at unknown
          cases unknown
        rw [if_neg elsewhere]
        exact ih done

end QueryGateway.Shape
