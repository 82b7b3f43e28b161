import Mathlib.Data.Finset.Sort
import Mathlib.Data.List.Forall2
import Mathlib.Data.String.Basic
import QueryGateway.GraphQL.Inspection

/-!
# Registries and their histories

The history of a registry is the list of its registrations; that of a clone starts with the history of what it was
made from.  Whatever is registered and cloned in whatever order, each registry is what its own history says: under a
key stands the loader that was registered last, if it is asked for under the kind of this loader, and what is told of
the keys depends on nothing but which keys were registered.
-/

namespace QueryGateway

/-! ## Entries by key -/

namespace Keyed

variable {α : Type}

theorem mem_keys_iff {map : Keyed α} {key : String} : key ∈ map.keys ↔ ∃ value, map.get? key = some value := by
  induction map with
  | nil => simp [keys, get?]
  | cons entry rest ih =>
      obtain ⟨name, value⟩ := entry
      by_cases here : name = key
      · simp [keys, get?, here]
      · simp only [get?, if_neg here, ← ih]
        simp [keys, Ne.symm here]

end Keyed

namespace GraphQL.LoaderRegistry

variable {L K : Type}

/-! ## Histories -/

/-- What was registered, the first registration first. -/
abbrev History (L : Type) := List (String × L)

/-- A loader is what was registered last under a key. -/
def LastUnder (history : History L) (key : String) (loader : L) : Prop :=
  ∃ before after, history = before ++ (key, loader) :: after ∧ ∀ entry ∈ after, entry.1 ≠ key

/-- The keys under which something was registered. -/
def registered (history : History L) : Finset String := (history.map Prod.fst).toFinset

/-- The histories after a step: that of a clone is the one, so far, of what it is made from. -/
def recordStep (histories : List (History L)) : Step L → List (History L)
  | .register place key loader => histories.modify place fun history => history ++ [(key, loader)]
  | .clone place => histories ++ (histories[place]?).toList

/-- The histories of registries that were new before some steps. -/
def histories (count : Nat) (steps : List (Step L)) : List (History L) :=
  steps.foldl recordStep (List.replicate count [])

/-- The registries that were new before some steps, and their clones. -/
def run (count : Nat) (steps : List (Step L)) : List (LoaderRegistry L) :=
  steps.foldl step (List.replicate count empty)

/-- The registry that a history makes of a new one. -/
def ofHistory (history : History L) : LoaderRegistry L :=
  history.foldl (fun registry entry => registry.register entry.1 entry.2) empty

theorem ofHistory_concat (history : History L) (key : String) (loader : L) :
    ofHistory (history ++ [(key, loader)]) = (ofHistory history).register key loader := by
  rw [ofHistory, List.foldl_append]
  rfl

theorem lastUnder_concat_self {history : History L} {key : String} {loader last : L} :
    LastUnder (history ++ [(key, loader)]) key last ↔ last = loader := by
  constructor
  · rintro ⟨before, after, split, others⟩
    cases after using List.reverseRecOn with
    | nil =>
        obtain ⟨-, same⟩ := List.append_inj' split rfl
        cases same
        rfl
    | append_singleton after entry =>
        rw [← List.cons_append, ← List.append_assoc] at split
        obtain ⟨-, same⟩ := List.append_inj' split rfl
        cases same
        exact absurd rfl (others _ (List.mem_append_right _ List.mem_cons_self))
  · rintro rfl
    exact ⟨history, [], rfl, nofun⟩

theorem lastUnder_concat_of_ne {history : History L} {key other : String} (elsewhere : other ≠ key) {loader last : L} :
    LastUnder (history ++ [(other, loader)]) key last ↔ LastUnder history key last := by
  constructor
  · rintro ⟨before, after, split, others⟩
    cases after using List.reverseRecOn with
    | nil =>
        obtain ⟨-, same⟩ := List.append_inj' split rfl
        cases same
        exact absurd rfl elsewhere
    | append_singleton after entry =>
        rw [← List.cons_append, ← List.append_assoc] at split
        obtain ⟨same, -⟩ := List.append_inj' split rfl
        exact ⟨before, after, same, fun entry member => others entry (List.mem_append_left _ member)⟩
  · rintro ⟨before, after, rfl, others⟩
    refine ⟨before, after ++ [(other, loader)], by rw [List.append_assoc, List.cons_append], ?_⟩
    exact List.forall_mem_append.mpr ⟨others, List.forall_mem_singleton.mpr elsewhere⟩

/-- By induction on the history, its last registration first: it counts under its own key and under no other. -/
theorem get?_entries_ofHistory {history : History L} {key : String} {loader : L} :
    (ofHistory history).entries.get? key = some loader ↔ LastUnder history key loader := by
  induction history using List.reverseRecOn with
  | nil =>
      refine ⟨nofun, ?_⟩
      rintro ⟨before, after, split, -⟩
      simp at split
  | append_singleton history entry ih =>
      obtain ⟨other, last⟩ := entry
      rw [ofHistory_concat, register]
      by_cases here : other = key
      · subst here
        rw [Keyed.get?_insert_self, lastUnder_concat_self, Option.some.injEq, eq_comm]
      · rw [Keyed.get?_insert_of_ne (Ne.symm here), ih, lastUnder_concat_of_ne here]

theorem exists_lastUnder_iff {history : History L} {key : String} :
    (∃ loader, LastUnder history key loader) ↔ key ∈ registered history := by
  induction history using List.reverseRecOn with
  | nil =>
      constructor
      · rintro ⟨loader, before, after, split, -⟩
        simp at split
      · simp [registered]
  | append_singleton history entry ih =>
      obtain ⟨other, last⟩ := entry
      have either : key ∈ registered (history ++ [(other, last)]) ↔ key ∈ registered history ∨ key = other := by
        simp [registered, or_comm]
      by_cases here : other = key
      · subst here
        simp only [either, or_true, iff_true]
        exact ⟨last, lastUnder_concat_self.mpr rfl⟩
      · simp only [lastUnder_concat_of_ne here, ih, either, Ne.symm here, or_false]

theorem ascending_ofHistory (history : History L) : (ofHistory history).entries.Ascending := by
  induction history using List.reverseRecOn with
  | nil => trivial
  | append_singleton history entry ih =>
      rw [ofHistory_concat]
      exact ih.insert _ _

/-! ## What a history tells -/

/-- A registry is what a history says: a key finds what was registered last under it, under the kind of that loader,
and the keys are those that were registered, in ascending order, each once. -/
structure Follows [Kinded L K] [DecidableEq K] (registry : LoaderRegistry L) (history : History L) : Prop where
  found : ∀ key kind loader, registry.get? key kind = some loader ↔
    LastUnder history key loader ∧ Kinded.kind loader = kind
  keys : registry.keys = (registered history).sort
  size : registry.size = (registered history).card
  isEmpty : registry.isEmpty = true ↔ registered history = ∅

theorem keys_ofHistory (history : History L) : (ofHistory history).keys = (registered history).sort := by
  have ascending := Keyed.ascending_iff_pairwise.mp (ascending_ofHistory history)
  have same : (ofHistory history).keys.toFinset = registered history := by
    ext key
    rw [List.mem_toFinset, ← exists_lastUnder_iff]
    simp only [LoaderRegistry.keys, Keyed.mem_keys_iff, get?_entries_ofHistory]
  rw [← same]
  exact ((List.toFinset_sort _ (ascending.imp ne_of_lt)).mpr (ascending.imp le_of_lt)).symm

theorem size_ofHistory (history : History L) : (ofHistory history).size = (registered history).card := by
  have length : ((registered history).sort (· ≤ ·)).length = (registered history).card := Finset.length_sort _
  rw [← length, ← keys_ofHistory]
  exact (List.length_map _).symm

theorem follows_ofHistory [Kinded L K] [DecidableEq K] (history : History L) : (ofHistory history).Follows history where
  found key kind loader := by
    rw [get?, Option.filter_eq_some_iff, get?_entries_ofHistory, decide_eq_true_iff]
  keys := keys_ofHistory history
  size := size_ofHistory history
  isEmpty := by
    rw [← Finset.card_eq_zero, ← size_ofHistory, isEmpty, size, List.isEmpty_iff, List.length_eq_zero_iff]

/-! ## Steps -/

/-- A step keeps every registry what its history says. -/
theorem step_map_ofHistory (histories : List (History L)) (step : Step L) :
    LoaderRegistry.step (histories.map ofHistory) step = (recordStep histories step).map ofHistory := by
  cases step with
  | register place key loader =>
      apply List.ext_getElem?
      intro other
      simp only [LoaderRegistry.step, recordStep, List.getElem?_modify, List.getElem?_map]
      cases histories[other]? with
      | none => rfl
      | some history =>
          by_cases here : place = other
          · simp [here, ofHistory_concat]
          · simp [here]
  | clone place =>
      simp only [LoaderRegistry.step, recordStep, List.getElem?_map, List.map_append]
      cases histories[place]? <;> rfl

theorem run_eq (count : Nat) (steps : List (Step L)) : run count steps = (histories count steps).map ofHistory := by
  have all : ∀ kept : List (History L),
      steps.foldl step (kept.map ofHistory) = (steps.foldl recordStep kept).map ofHistory := by
    induction steps with
    | nil => exact fun kept => rfl
    | cons first steps ih =>
        intro kept
        rw [List.foldl_cons, List.foldl_cons, step_map_ofHistory, ih]
  have new : (List.replicate count []).map ofHistory = List.replicate count (empty : LoaderRegistry L) :=
    List.map_replicate
  rw [run, ← new, all]
  rfl

/-- A step registers something at a place. -/
def Step.RegistersAt (place : Nat) : Step L → Prop
  | .register other _ _ => other = place
  | .clone _ => False

/-- A registry changes by registrations at its own place only. -/
theorem getElem?_step {registries : List (LoaderRegistry L)} {place : Nat} {registry : LoaderRegistry L}
    (here : registries[place]? = some registry) {step : Step L} (elsewhere : ¬step.RegistersAt place) :
    (LoaderRegistry.step registries step)[place]? = some registry := by
  cases step with
  | register other key loader =>
      rw [LoaderRegistry.step, List.getElem?_modify, here]
      exact congrArg some (if_neg elsewhere)
  | clone other =>
      obtain ⟨inside, -⟩ := List.getElem?_eq_some_iff.mp here
      rw [LoaderRegistry.step, List.getElem?_append_left inside, here]

theorem getElem?_steps {registries : List (LoaderRegistry L)} {place : Nat} {registry : LoaderRegistry L}
    (here : registries[place]? = some registry) {steps : List (Step L)}
    (elsewhere : ∀ step ∈ steps, ¬step.RegistersAt place) :
    (steps.foldl step registries)[place]? = some registry := by
  induction steps generalizing registries with
  | nil => exact here
  | cons first steps ih =>
      obtain ⟨notHere, elsewhere⟩ := List.forall_mem_cons.mp elsewhere
      exact ih (getElem?_step here notHere) elsewhere

/-! ## What is told of the keys -/

/-- Registries are told apart by their keys only if other keys were registered. -/
theorem keys_eq_of_same {history otherHistory : History L}
    (same : ∀ key, key ∈ (ofHistory history).keys ↔ key ∈ (ofHistory otherHistory).keys) :
    (ofHistory history).keys = (ofHistory otherHistory).keys := by
  have keys : registered history = registered otherHistory := by
    ext key
    rw [← Finset.mem_sort (· ≤ ·), ← keys_ofHistory, same, keys_ofHistory, Finset.mem_sort]
  rw [keys_ofHistory, keys_ofHistory, keys]

/-- However the keys of a registry are listed, sorting them gives the same list. -/
theorem mergeSort_eq_keys {history : History L} {listed : List String}
    (all : listed.Perm (ofHistory history).keys) : listed.mergeSort = (ofHistory history).keys := by
  have ascending := (Keyed.ascending_iff_pairwise.mp (ascending_ofHistory history)).imp le_of_lt
  refine List.Perm.eq_of_pairwise (fun first second _ _ => le_antisymm) ?_ ascending
    ((List.mergeSort_perm listed _).trans all)
  exact List.pairwise_mergeSort' (· ≤ ·) listed

/-- A registry that comes of registrations and clonings. -/
def Made (registry : LoaderRegistry L) : Prop := ∃ count steps, registry ∈ run count steps

theorem Made.exists_history {registry : LoaderRegistry L} (made : registry.Made) :
    ∃ history, registry = ofHistory history := by
  obtain ⟨count, steps, among⟩ := made
  rw [run_eq] at among
  obtain ⟨history, -, same⟩ := List.mem_map.mp among
  exact ⟨history, same.symm⟩

theorem Made.keys_eq {one other : LoaderRegistry L} (made : one.Made) (otherMade : other.Made)
    (same : ∀ key, key ∈ one.keys ↔ key ∈ other.keys) : one.keys = other.keys := by
  obtain ⟨history, rfl⟩ := made.exists_history
  obtain ⟨otherHistory, rfl⟩ := otherMade.exists_history
  exact keys_eq_of_same same

theorem Made.sortedKeys_eq {registry : LoaderRegistry L} (made : registry.Made) (listing : Listing) :
    registry.sortedKeys listing = registry.keys := by
  obtain ⟨history, rfl⟩ := made.exists_history
  exact mergeSort_eq_keys (listing.perm _)

section

variable {one other : LoaderRegistry L} (made : one.Made) (otherMade : other.Made) (same : one.keys = other.keys)
  (listing otherListing : Listing)
include made otherMade same

/-- Registries with the same keys tell them alike, in whatever order each one lists them. -/
theorem sortedKeys_eq_of_keys : one.sortedKeys listing = other.sortedKeys otherListing :=
  (made.sortedKeys_eq listing).trans (same.trans (otherMade.sortedKeys_eq otherListing).symm)

/-- What is shown of a registry is made of its sorted keys. -/
theorem shown_eq_of_keys :
    one.inspect listing = other.inspect otherListing ∧ one.inspectLines listing = other.inspectLines otherListing := by
  have sorted := sortedKeys_eq_of_keys made otherMade same listing otherListing
  constructor
  · unfold inspect
    rw [sorted]
  · unfold inspectLines
    rw [sorted]

end

/-- The engine that reports what it was asked tells of loaders their sorted keys only. -/
theorem echo_eq_of_keys {one other : LoaderRegistry} (made : one.Made) (otherMade : other.Made)
    (same : one.keys = other.keys) (listing otherListing : Listing) (before : Nat) (execution : Execution) :
    Engine.echo listing before { execution with loaders := some one } =
      Engine.echo otherListing before { execution with loaders := some other } := by
  have sorted := sortedKeys_eq_of_keys made otherMade same listing otherListing
  unfold Engine.echo
  simp only [Option.map_some, sorted]

/-- After any registrations and clonings every registry is what its history says, whatever kinds of loaders there are.
A clone starts as a copy, and a registry changes by registrations at its own place only, so that neither of the two
shows what comes to the other later.  Which keys a registry has, in whatever order they were registered and are listed,
decides what is told of them: the sorted keys, both texts, and what an engine reports that reports what it was asked. -/
theorem registries_follow_histories [Kinded L K] [DecidableEq K] (count : Nat) (steps : List (Step L)) :
    List.Forall₂ Follows (run count steps) (histories count steps) ∧
    (∀ place registry, (run count steps)[place]? = some registry →
      run count (steps ++ [.clone place]) = run count steps ++ [registry] ∧
      ∀ later : List (Step L), (∀ step ∈ later, ¬step.RegistersAt place) →
        (run count (steps ++ later))[place]? = some registry) ∧
    (∀ one : LoaderRegistry L, one.Made →
      (∀ listed : List String, listed.Perm one.keys → listed.mergeSort = one.keys) ∧
      ∀ other : LoaderRegistry L, other.Made → (∀ key, key ∈ one.keys ↔ key ∈ other.keys) →
        one.keys = other.keys ∧ ∀ listing otherListing : Listing,
          one.inspect listing = other.inspect otherListing ∧
          one.inspectLines listing = other.inspectLines otherListing) ∧
    ∀ one other : LoaderRegistry, one.Made → other.Made → (∀ key, key ∈ one.keys ↔ key ∈ other.keys) →
      ∀ (listing otherListing : Listing) before (execution : Execution),
        Engine.echo listing before { execution with loaders := some one } =
          Engine.echo otherListing before { execution with loaders := some other } := by
  refine ⟨?_, fun place registry here => ⟨?_, fun later elsewhere => ?_⟩,
    fun one made => ⟨fun listed all => ?_, ?_⟩, ?_⟩
  · rw [run_eq, List.forall₂_map_left_iff, List.forall₂_same]
    exact fun history _ => follows_ofHistory history
  · rw [run, List.foldl_append]
    show run count steps ++ ((run count steps)[place]?).toList = _
    rw [here]
    rfl
  · rw [run, List.foldl_append]
    exact getElem?_steps here elsewhere
  · obtain ⟨history, rfl⟩ := made.exists_history
    exact mergeSort_eq_keys all
  · intro other otherMade same
    have keys := made.keys_eq otherMade same
    exact ⟨keys, shown_eq_of_keys made otherMade keys⟩
  · intro one other made otherMade same
    exact echo_eq_of_keys made otherMade (made.keys_eq otherMade same)

/-- A registry is cloned, and then its loader is replaced by one of another kind. -/
def replacing : List (Step Loader) := [.register 0 "a" (.word 1), .clone 0, .register 0 "a" (.text "x")]

/-- The loader that was replaced is no longer found where it was replaced, but still in the clone. -/
theorem replaced_stays_in_clone :
    ∃ registry clone : LoaderRegistry, run 1 replacing = [registry, clone] ∧
      registry.get? "a" LoaderKind.word = none ∧ registry.get? "a" LoaderKind.text = some (.text "x") ∧
      clone.get? "a" LoaderKind.word = some (.word 1) ∧
      (run 1 (replacing ++ [.register 0 "b" (.flag true)]))[1]? = some clone := by
  obtain ⟨follow, apart, -⟩ := registries_follow_histories 1 replacing
  have made : histories 1 replacing = [[("a", .word 1), ("a", .text "x")], [("a", .word 1)]] := rfl
  rw [made] at follow
  generalize run 1 replacing = registries at follow apart ⊢
  obtain _ | ⟨first, _ | ⟨second, _ | _⟩⟩ := follow
  refine ⟨_, _, rfl, ?_, ?_, ?_, ?_⟩
  · rw [Option.eq_none_iff_forall_ne_some]
    intro loader found
    obtain ⟨last, isWord⟩ := (first.found _ _ _).mp found
    have replaced := (@lastUnder_concat_self Loader [("a", .word 1)] "a" (.text "x") loader).mp last
    rw [replaced] at isWord
    cases isWord
  · exact (first.found _ _ _).mpr ⟨⟨[("a", .word 1)], [], rfl, nofun⟩, rfl⟩
  · exact (second.found _ _ _).mpr ⟨⟨[], [], rfl, nofun⟩, rfl⟩
  · exact (apart 1 _ rfl).2 _ (List.forall_mem_singleton.mpr Nat.zero_ne_one)

end GraphQL.LoaderRegistry

end QueryGateway
