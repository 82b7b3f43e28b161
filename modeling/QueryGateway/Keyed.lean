/-!
# Maps in ascending order of keys

Lists of entries with a text as key.  `Keyed.insert` keeps the keys in ascending order, one entry a key, and
the last value wins.
Main statements: looking a key up after an insertion finds the inserted value under that key and what was
there under every other, and insertion keeps the order.
-/

namespace QueryGateway

/-- Entries with a text as key. -/
abbrev Keyed (α : Type) := List (String × α)

namespace Keyed

variable {α : Type}

/-- The value of a key. -/
def get? : Keyed α → String → Option α
  | [], _ => none
  | (name, value) :: rest, key => if name = key then some value else get? rest key

/-- Sets the value of a key and keeps ascending order of keys. -/
def insert (key : String) (value : α) : Keyed α → Keyed α
  | [] => [(key, value)]
  | (name, old) :: rest =>
    if key < name then (key, value) :: (name, old) :: rest
    else if key = name then (key, value) :: rest
    else (name, old) :: insert key value rest

/-- The map of a written list, in which the last of two equal keys counts. -/
def ofList (entries : List (String × α)) : Keyed α :=
  entries.foldl (fun map entry => insert entry.1 entry.2 map) []

/-- The keys in order. -/
def keys (map : Keyed α) : List String := map.map Prod.fst

/-- The keys ascend strictly. -/
def Ascending : Keyed α → Prop
  | [] => True
  | (name, _) :: rest => (∀ entry ∈ rest, name < entry.1) ∧ Ascending rest

@[simp] theorem get?_insert_self (key : String) (value : α) (map : Keyed α) :
    (insert key value map).get? key = some value := by
  induction map with
  | nil => simp [insert, get?]
  | cons entry rest ih =>
    obtain ⟨name, old⟩ := entry
    unfold insert
    split
    · simp [get?]
    · split
      · simp [get?]
      · rename_i h
        simp [get?, Ne.symm h, ih]

theorem get?_insert_of_ne {key other : String} (h : other ≠ key) (value : α) (map : Keyed α) :
    (insert key value map).get? other = map.get? other := by
  induction map with
  | nil => simp [insert, get?, h.symm]
  | cons entry rest ih =>
    obtain ⟨name, old⟩ := entry
    unfold insert
    split
    · simp [get?, h.symm]
    · split
      · rename_i e
        subst e
        simp [get?, h.symm]
      · simp [get?, ih]

theorem mem_insert {key : String} {value : α} {map : Keyed α} {entry : String × α}
    (h : entry ∈ insert key value map) : entry = (key, value) ∨ entry ∈ map := by
  induction map with
  | nil => simpa [insert] using h
  | cons first rest ih =>
    obtain ⟨name, old⟩ := first
    unfold insert at h
    split at h
    · simpa using h
    · split at h
      · rcases List.mem_cons.1 h with h | h
        · exact .inl h
        · exact .inr (List.mem_cons_of_mem _ h)
      · rcases List.mem_cons.1 h with h | h
        · exact .inr (h ▸ List.mem_cons_self)
        · exact (ih h).imp id (List.mem_cons_of_mem _)

theorem Ascending.insert {map : Keyed α} (h : map.Ascending) (key : String) (value : α) :
    (map.insert key value).Ascending := by
  induction map with
  | nil => simp [Keyed.insert, Ascending]
  | cons first rest ih =>
    obtain ⟨name, old⟩ := first
    obtain ⟨hn, hr⟩ := h
    unfold Keyed.insert
    split
    · rename_i lt
      refine ⟨fun entry he => ?_, hn, hr⟩
      rcases List.mem_cons.1 he with rfl | he
      · exact lt
      · exact String.lt_trans lt (hn entry he)
    · split
      · rename_i e
        subst e
        exact ⟨hn, hr⟩
      · rename_i nlt ne
        refine ⟨fun entry he => ?_, ih hr⟩
        rcases mem_insert he with rfl | he
        · exact Decidable.byContradiction fun h =>
            ne (String.le_antisymm (String.not_lt.1 h) (String.not_lt.1 nlt))
        · exact hn entry he

theorem ascending_iff_pairwise {map : Keyed α} : map.Ascending ↔ map.keys.Pairwise (· < ·) := by
  induction map with
  | nil => exact ⟨fun _ => .nil, fun _ => trivial⟩
  | cons entry rest ih => rw [keys, List.map_cons, List.pairwise_cons, List.forall_mem_map, ← keys, ← ih, Ascending]

/-- The names of ascending entries are distinct. -/
theorem Ascending.nodup_keys {map : Keyed α} (h : map.Ascending) : map.keys.Nodup :=
  (ascending_iff_pairwise.mp h).imp String.ne_of_lt

theorem get?_of_mem {map : Keyed α} (distinct : map.keys.Nodup) {name : String} {value : α}
    (member : (name, value) ∈ map) : map.get? name = some value := by
  induction map with
  | nil => cases member
  | cons entry rest ih =>
    obtain ⟨other, old⟩ := entry
    obtain ⟨notLater, distinct⟩ := List.nodup_cons.mp distinct
    rcases List.mem_cons.mp member with same | member
    · cases same
      exact if_pos rfl
    · have differs : other ≠ name := by
        rintro rfl
        exact notLater (List.mem_map.mpr ⟨_, member, rfl⟩)
      rw [get?, if_neg differs, ih distinct member]

theorem mem_of_get? {map : Keyed α} {name : String} {value : α} (found : map.get? name = some value) :
    (name, value) ∈ map := by
  induction map with
  | nil => cases found
  | cons entry rest ih =>
    obtain ⟨other, old⟩ := entry
    unfold get? at found
    split at found
    · next same =>
      subst same
      cases found
      exact List.mem_cons_self
    · exact List.mem_cons_of_mem _ (ih found)

end Keyed

end QueryGateway
