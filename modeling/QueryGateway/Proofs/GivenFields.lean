import QueryGateway.Proofs.RecordReading

/-!
# Records that are given field by field

A map gives a record if each field stands in it once, or not at all where it may be left out.  Other entries do not
count, and neither does the order: the record that is read is the one in which the fields that are given were set, one
after the other as the record lists them.
-/

namespace QueryGateway.Shape

variable {δ α : Type}

/-! ## Entries under a name -/

/-- The values under a name, in order. -/
def valuesOf (entries : List (String × δ)) (name : String) : List δ :=
  (entries.filter fun entry => entry.1 = name).map Prod.snd

@[simp] theorem valuesOf_cons_self (name : String) (d : δ) (entries : List (String × δ)) :
    valuesOf ((name, d) :: entries) name = d :: valuesOf entries name := by
  simp [valuesOf]

theorem valuesOf_cons_of_ne {other name : String} (elsewhere : other ≠ name) (d : δ) (entries : List (String × δ)) :
    valuesOf ((other, d) :: entries) name = valuesOf entries name := by
  simp [valuesOf, elsewhere]

/-! ## Fields that do not interfere -/

theorem run_map_of_run {β γ : Type} (f : β → γ) {reader : TreeReader δ β} {d : δ} {part : β}
    (read : reader.run d = .ok part) : (TreeReader.map f reader).run d = .ok (f part) := by
  show (reader.run d).map f = _
  rw [read]
  rfl

/-- It does not matter which of two fields is set first. -/
def Field.Commutes (first second : Field (TreeReader δ) α) : Prop :=
  ∀ {d e : δ} {change other : α → α}, first.read.run d = .ok change → second.read.run e = .ok other →
    ∀ a, change (other a) = other (change a)

/-- The fields of a record have different names and do not interfere with each other. -/
structure Independent (fields : List (Field (TreeReader δ) α)) : Prop where
  distinct : (fields.map Field.name).Nodup
  commuting : fields.Pairwise Field.Commutes

theorem Independent.tail {field : Field (TreeReader δ) α} {fields : List (Field (TreeReader δ) α)}
    (independent : Independent (field :: fields)) : Independent fields :=
  ⟨(List.nodup_cons.mp independent.distinct).2, (List.pairwise_cons.mp independent.commuting).2⟩

theorem Independent.name_ne {field other : Field (TreeReader δ) α} {fields : List (Field (TreeReader δ) α)}
    (independent : Independent (field :: fields)) (member : other ∈ fields) : other.name ≠ field.name := by
  intro same
  exact (List.nodup_cons.mp independent.distinct).1 (same ▸ List.mem_map_of_mem member)

/-- Fields do not interfere if each one sets a part that the other one leaves alone. -/
@[simp]
theorem Field.commutes_of_free [Tree δ] {β γ : Type} {name other : String} {required needed : Bool}
    {reader : TreeReader δ β} {another : TreeReader δ γ} {set : β → α → α} {put : γ → α → α}
    (free : ∀ b c a, set b (put c a) = put c (set b a)) :
    Commutes ⟨name, required, Format.map set reader⟩ ⟨other, needed, Format.map put another⟩ := by
  intro d e change later read otherRead a
  obtain ⟨b, -, rfl⟩ := map_eq_ok read
  obtain ⟨c, -, rfl⟩ := map_eq_ok otherRead
  exact free b c a

/-! ## Given fields -/

/-- Where the fields in `given` were given before, entries give the other ones that are needed: the fields make one
record of another. -/
inductive Assembles (given : List String) (entries : List (String × δ)) : α → List (Field (TreeReader δ) α) → α → Prop
  | done {a : α} : Assembles given entries a [] a
  | absent {field : Field (TreeReader δ) α} {fields : List (Field (TreeReader δ) α)} {a b : α}
      (none : valuesOf entries field.name = []) (needless : field.required = true → field.name ∈ given)
      (others : Assembles given entries a fields b) : Assembles given entries a (field :: fields) b
  | given {field : Field (TreeReader δ) α} {fields : List (Field (TreeReader δ) α)} {a b : α} {d : δ} {change : α → α}
      (new : field.name ∉ given) (one : valuesOf entries field.name = [d]) (read : field.read.run d = .ok change)
      (others : Assembles given entries (change a) fields b) : Assembles given entries a (field :: fields) b

variable {given : List String} {entries : List (String × δ)} {fields : List (Field (TreeReader δ) α)} {a b : α}

/-- An entry that belongs to no field does not count. -/
theorem Assembles.skip {name : String} {d : δ} (assembles : Assembles given ((name, d) :: entries) a fields b)
    (elsewhere : ∀ field ∈ fields, field.name ≠ name) : Assembles given entries a fields b := by
  induction assembles with
  | done => exact .done
  | absent none needless _ ih =>
      obtain ⟨other, elsewhere⟩ := List.forall_mem_cons.mp elsewhere
      rw [valuesOf_cons_of_ne (Ne.symm other)] at none
      exact .absent none needless (ih elsewhere)
  | given new one read _ ih =>
      obtain ⟨other, elsewhere⟩ := List.forall_mem_cons.mp elsewhere
      rw [valuesOf_cons_of_ne (Ne.symm other)] at one
      exact .given new one read (ih elsewhere)

/-- A field that was given is given no more. -/
theorem Assembles.remember {name : String} (assembles : Assembles given entries a fields b)
    (elsewhere : ∀ field ∈ fields, field.name ≠ name) : Assembles (name :: given) entries a fields b := by
  induction assembles with
  | done => exact .done
  | absent none needless _ ih =>
      obtain ⟨-, elsewhere⟩ := List.forall_mem_cons.mp elsewhere
      exact .absent none (fun required => List.mem_cons_of_mem _ (needless required)) (ih elsewhere)
  | given new one read _ ih =>
      obtain ⟨other, elsewhere⟩ := List.forall_mem_cons.mp elsewhere
      exact .given (fun member => (List.mem_cons.mp member).elim other new) one read (ih elsewhere)

/-- The first entry can be taken before all others: its field is set first. -/
theorem Assembles.take {name : String} {d : δ} (assembles : Assembles given ((name, d) :: entries) a fields b)
    (independent : Independent fields) {own : Field (TreeReader δ) α} (member : own ∈ fields)
    (named : own.name = name) :
    own.name ∉ given ∧
      ∃ change, own.read.run d = .ok change ∧ Assembles (name :: given) entries (change a) fields b := by
  induction assembles with
  | done => cases member
  | @absent field fields a b none needless _ ih =>
      rcases List.mem_cons.mp member with rfl | member
      · rw [named, valuesOf_cons_self] at none
        cases none
      · obtain ⟨new, change, read, others⟩ := ih independent.tail member
        have other : name ≠ field.name := named ▸ independent.name_ne member
        rw [valuesOf_cons_of_ne other] at none
        exact ⟨new, change, read,
          .absent none (fun required => List.mem_cons_of_mem _ (needless required)) others⟩
  | @given field fields a b e first new one firstRead others ih =>
      rcases List.mem_cons.mp member with rfl | member
      · subst named
        rw [valuesOf_cons_self] at one
        obtain ⟨rfl, none⟩ := List.cons.inj one
        have elsewhere : ∀ other ∈ fields, other.name ≠ _ := fun _ among => independent.name_ne among
        exact ⟨new, first, firstRead,
          .absent none (fun _ => List.mem_cons_self) ((others.skip elsewhere).remember elsewhere)⟩
      · obtain ⟨newOwn, change, read, later⟩ := ih independent.tail member
        have other : name ≠ field.name := named ▸ independent.name_ne member
        rw [valuesOf_cons_of_ne other] at one
        have free := (List.pairwise_cons.mp independent.commuting).1 own member firstRead read a
        rw [← free] at later
        exact ⟨newOwn, change, read, .given (fun among => (List.mem_cons.mp among).elim (Ne.symm other) new) one
          firstRead later⟩

/-- Without entries nothing is set, and what is needed was given before. -/
theorem Assembles.of_nil (assembles : Assembles given [] a fields b) :
    b = a ∧ ∀ field ∈ fields, field.required = true → field.name ∈ given := by
  induction assembles with
  | done => exact ⟨rfl, nofun⟩
  | absent _ needless _ ih => exact ⟨ih.1, List.forall_mem_cons.mpr ⟨needless, ih.2⟩⟩
  | given _ one => cases one

variable [Tree δ]

/-- By induction on the entries: the first one sets its field, or it belongs to no field. -/
theorem Assembles.recordEntries_eq {r : Record (TreeReader δ) α} (independent : Independent r.fields) (whole : δ)
    (assembles : Assembles given entries a r.fields b) : TreeReader.recordEntries r whole given a entries = .ok b := by
  induction entries generalizing given a with
  | nil =>
      obtain ⟨same, needless⟩ := assembles.of_nil
      have complete : r.missing? given = none := by
        rw [Record.missing?, Option.map_eq_none_iff, List.find?_eq_none]
        intro field member
        cases required : field.required with
        | false => simp
        | true => simpa using needless field member required
      rw [TreeReader.recordEntries, complete, same]
  | cons entry entries ih =>
      obtain ⟨name, d⟩ := entry
      rw [TreeReader.recordEntries]
      cases known : r.field? name with
      | some field =>
          have member := List.mem_of_find?_eq_some known
          have named : field.name = name := by simpa using List.find?_some known
          obtain ⟨new, change, read, others⟩ := assembles.take independent member named
          have notGiven : given.contains name = false := by
            rwa [← Bool.not_eq_true, List.contains_iff_mem, ← named]
          simp only [notGiven, read]
          exact ih others
      | none =>
          refine ih (assembles.skip fun field member => ?_)
          simpa using List.find?_eq_none.mp known field member

/-- A map that gives the fields of a record is read as the record that they make, in whatever order it gives them. -/
theorem Assembles.run_record {r : Record (TreeReader δ) α} {d : δ} (map : Tree.view d = .map entries)
    (independent : Independent r.fields) (assembles : Assembles [] entries r.blank r.fields b) :
    (TreeReader.record r).run d = .ok b := by
  rw [TreeReader.record]
  simp only [map]
  exact assembles.recordEntries_eq independent d

/-! ## What readers read -/

/-- A reader reads something from a document. -/
def Reads {β : Type} (reader : TreeReader δ β) (b : β) (d : δ) : Prop := reader.run d = .ok b

theorem run_text {d : δ} {s : String} (shows : Tree.view d = .text s) : TreeReader.text.run d = .ok s := by
  unfold TreeReader.text
  simp only [shows]

theorem run_flag {d : δ} {b : Bool} (shows : Tree.view d = .flag b) : TreeReader.flag.run d = .ok b := by
  unfold TreeReader.flag
  simp only [shows]

/-- Where a word is expected, a whole number that fits gives it. -/
theorem run_word {β : Type} {fit? : Int → Option β} {name : String} {d : δ} {n : Int} {b : β}
    (shows : Tree.view d = .whole n) (fits : fit? n = some b) : (TreeReader.word fit? name).run d = .ok b := by
  unfold TreeReader.word
  simp only [shows, fits]

/-- A value that is not null is read as a value that is there. -/
theorem run_optional {β : Type} {reader : TreeReader δ β} {d : δ} {b : β} (read : reader.run d = .ok b)
    (there : Tree.view d ≠ .null) : (TreeReader.optional reader).run d = .ok (some b) := by
  unfold TreeReader.optional
  dsimp only
  split
  · next null => exact absurd null there
  · rw [read]
    rfl

theorem word64?_toNat (n : UInt64) : word64? n.toNat = some n := by
  have below := n.toNat_lt
  rw [word64?, if_pos (by omega)]
  simp

theorem word32?_toNat (n : UInt32) : word32? n.toNat = some n := by
  have below := n.toNat_lt
  rw [word32?, if_pos (by omega)]
  simp

/-! ## Optional parts -/

/-- Under a name stands a value that shows the given part, or nothing if no part is given. -/
def Holds {β : Type} (entries : List (String × δ)) (name : String) (shows : β → δ → Prop) : Option β → Prop
  | none => valuesOf entries name = []
  | some part => ∃ d, valuesOf entries name = [d] ∧ shows part d

/-- A field that may be left out is set if its part is given. -/
theorem Assembles.mayGive {β : Type} {name : String} {reader : TreeReader δ β} {set : β → α → α}
    {shows : β → δ → Prop} {part : Option β} (holds : Holds entries name shows part)
    (reads : ∀ {part d}, shows part d → reader.run d = .ok part)
    (others : Assembles [] entries (part.elim a fun part => set part a) fields b) :
    Assembles [] entries a (Field.mayGive name reader set :: fields) b := by
  cases part with
  | none => exact .absent holds nofun others
  | some part =>
      obtain ⟨d, one, shown⟩ := holds
      exact .given List.not_mem_nil one (run_map_of_run set (reads shown)) others

/-- A field that must be given is set. -/
theorem Assembles.mustGive {β : Type} {name : String} {reader : TreeReader δ β} {set : β → α → α}
    {shows : β → δ → Prop} {part : β} (holds : Holds entries name shows (some part))
    (reads : ∀ {part d}, shows part d → reader.run d = .ok part)
    (others : Assembles [] entries (set part a) fields b) :
    Assembles [] entries a (Field.mustGive name reader set :: fields) b := by
  obtain ⟨d, one, shown⟩ := holds
  exact .given List.not_mem_nil one (run_map_of_run set (reads shown)) others

end QueryGateway.Shape
