import Mathlib.Data.List.Induction
import Mathlib.Data.List.Nodup
import QueryGateway.GraphQL.SharedProviders
import QueryGateway.Proofs.InstalledProviders

/-!
# Providers that are set at the same time

Whatever the order of their steps, every call that sets a provider takes effect exactly once, at the swap that succeeds:
there it replaces its own component of the pair that is current, and keeps the other one.  So nothing that was set is
lost, and the pairs are those of a cell that is changed by one call after the other.  A snapshot stays what it is.
All follows from what one step can do, and from an invariant of the pairs and of the calls that every step keeps.
-/

namespace QueryGateway.GraphQL

/-! ## What is set -/

namespace Setting

/-- The provider of contexts that is set. -/
def context? : Setting → Option ContextProvider
  | .context provider => some provider
  | .loaders _ => none

/-- The provider of loaders that is set. -/
def loaders? : Setting → Option LoaderProvider
  | .loaders provider => some provider
  | .context _ => none

theorem apply_eq (providers : Providers) (setting : Setting) :
    setting.apply providers =
      ⟨setting.context?.getD providers.context, setting.loaders?.getD providers.loaders⟩ := by
  cases setting <;> rfl

/-- Of settings that are made one after the other, the last one of each kind counts. -/
theorem foldl_apply (providers : Providers) (settings : List Setting) :
    settings.foldl apply providers =
      ⟨lastWritten context? providers.context settings, lastWritten loaders? providers.loaders settings⟩ := by
  induction settings generalizing providers with
  | nil => rfl
  | cons setting settings ih => rw [List.foldl_cons, ih, apply_eq, lastWritten_cons, lastWritten_cons]

end Setting

namespace SharedProviders

/-! ## What a step can do -/

/-- The setting with which a call begins. -/
def Event.setting? : Event → Option Setting
  | .call setting => some setting
  | .snapshot => none
  | .load _ => none
  | .build _ => none
  | .swap _ => none

/-- What an event does to the cell that is changed by one call after the other, if anything: a call takes effect at the
swap that succeeds. -/
def effect? (shared : SharedProviders) : Event → Option ProviderCell.Event
  | .snapshot => some .snapshot
  | .call _ => none
  | .load _ => none
  | .build _ => none
  | .swap call =>
    match shared.calls[call]? with
    | some ⟨setting, .built place _⟩ => if shared.current = place then some setting.effect else none
    | _ => none

/-- What an event makes of the providers, and its effect. -/
inductive Moves (shared : SharedProviders) : Event → Option ProviderCell.Event → SharedProviders → Prop
  /-- A call is not at the point for the event. -/
  | idle {event : Event} (begins : event.setting? = none) : Moves shared event none shared
  | snapshot :
      Moves shared .snapshot (some .snapshot) { shared with snapshots := shared.snapshots ++ [shared.current] }
  | call {setting : Setting} :
      Moves shared (.call setting) none { shared with calls := shared.calls ++ [⟨setting, .waiting⟩] }
  | load {call : Nat} {setting : Setting} (here : shared.calls[call]? = some ⟨setting, .waiting⟩) :
      Moves shared (.load call) none (shared.advance call (.loaded shared.current))
  | build {call place : Nat} {setting : Setting} (here : shared.calls[call]? = some ⟨setting, .loaded place⟩) :
      Moves shared (.build call) none (shared.build call setting place)
  | publish {call made : Nat} {setting : Setting}
      (here : shared.calls[call]? = some ⟨setting, .built shared.current made⟩) :
      Moves shared (.swap call) (some setting.effect) (shared.publish call setting made)
  | retry {call place made : Nat} {setting : Setting}
      (here : shared.calls[call]? = some ⟨setting, .built place made⟩) (overtaken : shared.current ≠ place) :
      Moves shared (.swap call) none (shared.advance call .waiting)

theorem moves_next (shared : SharedProviders) (event : Event) :
    Moves shared event (shared.effect? event) (shared.next event) := by
  cases event with
  | snapshot => exact .snapshot
  | call setting => exact .call
  | load call =>
      unfold next effect?
      dsimp only
      split
      · next here => exact .load here
      · exact .idle rfl
  | build call =>
      unfold next effect?
      dsimp only
      split
      · next here => exact .build here
      · exact .idle rfl
  | swap call =>
      unfold next effect?
      dsimp only
      rcases here : shared.calls[call]? with _ | ⟨setting, _ | place | ⟨place, made⟩ | _⟩
      · exact .idle rfl
      · exact .idle rfl
      · exact .idle rfl
      · dsimp only
        by_cases same : shared.current = place
        · subst same
          rw [if_pos rfl, if_pos rfl]
          exact .publish here
        · rw [if_neg same, if_neg same]
          exact .retry here same
      · exact .idle rfl

/-! ## Calls and pairs -/

section

variable {shared after : SharedProviders} {call other place : Nat} {setting : Setting} {progress : Progress}

/-- The places of the pairs that were published, in order. -/
def published (shared : SharedProviders) : List Nat := shared.earlier ++ [shared.current]

theorem calls_advance (shared : SharedProviders) (call other : Nat) (progress : Progress) :
    (shared.advance call progress).calls[other]? =
      (shared.calls[other]?).map fun found => if call = other then { found with progress } else found := by
  unfold advance
  rw [List.getElem?_modify]
  rfl

theorem calls_advance_self (here : shared.calls[call]? = some ⟨setting, progress⟩) (later : Progress) :
    (shared.advance call later).calls[call]? = some ⟨setting, later⟩ := by
  rw [calls_advance, here]
  simp

theorem calls_advance_of_ne (differ : call ≠ other) (progress : Progress) :
    (shared.advance call progress).calls[other]? = shared.calls[other]? := by
  rw [calls_advance]
  simp [differ]

theorem prefix_allocate (shared : SharedProviders) (pair : Providers) :
    shared.pairs <+: (shared.allocate pair).pairs := List.prefix_append _ _

/-- A pair that is made is the last one. -/
theorem pairAt_allocate (shared : SharedProviders) (pair : Providers) :
    (shared.allocate pair).pairAt shared.pairs.length = pair := by
  unfold pairAt allocate
  rw [List.getElem?_concat_length]
  rfl

/-- A pair stays what it is when others are made. -/
theorem pairAt_of_grows (grows : shared.pairs <+: after.pairs) (made : place < shared.pairs.length) :
    after.pairAt place = shared.pairAt place := by
  obtain ⟨more, same⟩ := grows
  unfold pairAt
  rw [← same, List.getElem?_append_left made]

end

/-! ## What every step keeps -/

/-- A call has loaded a pair that was published, and has made its own pair from it. -/
def Fits (shared : SharedProviders) (call : Call) : Prop :=
  match call.progress with
  | .waiting => True
  | .loaded place => place ∈ shared.published
  | .built place made => place ∈ shared.published ∧ made < shared.pairs.length ∧
      shared.pairAt made = call.setting.apply (shared.pairAt place)
  | .finished => True

/-- The pairs that were published are those of the swaps that succeeded, one after the other, and each of these is the
swap of a call that has finished. -/
structure Sound (shared : SharedProviders) : Prop where
  made : ∀ place ∈ shared.published, place < shared.pairs.length
  taken : ∀ place ∈ shared.snapshots, place ∈ shared.published
  fits : ∀ (number : Nat) (call : Call), shared.calls[number]? = some call → shared.Fits call
  history : shared.published.map shared.pairAt = (shared.swaps.map Prod.snd).scanl Setting.apply .standard
  once : (shared.swaps.map Prod.fst).Nodup
  swapped : ∀ (number : Nat) (setting : Setting),
    (number, setting) ∈ shared.swaps ↔ shared.calls[number]? = some ⟨setting, .finished⟩

section

variable {shared after : SharedProviders} {call : Nat} {setting : Setting} {progress : Progress}

theorem fits_of_grows (made : ∀ place ∈ shared.published, place < shared.pairs.length)
    (grows : shared.pairs <+: after.pairs) (published : shared.published ⊆ after.published) {call : Call}
    (fits : shared.Fits call) : after.Fits call := by
  obtain ⟨setting, progress⟩ := call
  cases progress with
  | waiting | finished => trivial
  | loaded place => exact published fits
  | built place own =>
      obtain ⟨loaded, exists_, same⟩ := fits
      refine ⟨published loaded, Nat.lt_of_lt_of_le exists_ grows.length_le, ?_⟩
      rw [pairAt_of_grows grows exists_, pairAt_of_grows grows (made place loaded)]
      exact same

/-- The current pair is what all swaps have made of the standard one. -/
theorem Sound.pairAt_current (sound : Sound shared) :
    shared.pairAt shared.current = (shared.swaps.map Prod.snd).foldl Setting.apply .standard := by
  have last := congrArg List.getLast? sound.history
  rw [published, List.map_append, List.map_cons, List.map_nil, List.getLast?_concat,
    List.getLast?_eq_some_getLast (by simp), List.getLast_scanl] at last
  exact Option.some.inj last

/-- The current pair is published. -/
theorem current_mem_published (shared : SharedProviders) : shared.current ∈ shared.published :=
  List.mem_append_right _ List.mem_cons_self

theorem sound_new : Sound new where
  made := by
    intro place member
    obtain rfl := List.mem_singleton.mp member
    exact Nat.one_pos
  taken := nofun
  fits := nofun
  history := rfl
  once := List.nodup_nil
  swapped := fun number setting => ⟨nofun, nofun⟩

/-- Another pair that nobody has seen yet changes nothing. -/
theorem Sound.allocate (sound : Sound shared) (pair : Providers) : Sound (shared.allocate pair) := by
  have grows := shared.prefix_allocate pair
  have published : (shared.allocate pair).published = shared.published := rfl
  refine ⟨fun place member => ?_, sound.taken, fun number call here => ?_, ?_, sound.once, sound.swapped⟩
  · exact Nat.lt_of_lt_of_le (sound.made place member) grows.length_le
  · exact fits_of_grows sound.made grows (fun _ member => member) (sound.fits number call here)
  · rw [published]
    refine Eq.trans ?_ sound.history
    exact List.map_congr_left fun place member => pairAt_of_grows grows (sound.made place member)

/-- A call that goes on, but does not finish, changes nothing for others. -/
theorem Sound.advance (sound : Sound shared) (here : shared.calls[call]? = some ⟨setting, progress⟩)
    (unfinished : progress ≠ .finished) {later : Progress} (goesOn : later ≠ .finished)
    (fits : shared.Fits ⟨setting, later⟩) : Sound (shared.advance call later) := by
  have others {number : Nat} (differ : call ≠ number) := @calls_advance_of_ne shared call number differ later
  have self := calls_advance_self here later
  refine ⟨sound.made, sound.taken, fun number found found_ => ?_, sound.history, sound.once, fun number other => ?_⟩
  · by_cases same : call = number
    · subst same
      cases self.symm.trans found_
      exact fits
    · rw [others same] at found_
      exact sound.fits number found found_
  · refine (sound.swapped number other).trans ?_
    by_cases same : call = number
    · subst same
      rw [here, self]
      simp [unfinished, goesOn]
    · rw [others same]

/-- A call that has not finished has not swapped. -/
theorem Sound.not_swapped (sound : Sound shared) (here : shared.calls[call]? = some ⟨setting, progress⟩)
    (unfinished : progress ≠ .finished) : call ∉ shared.swaps.map Prod.fst := by
  intro member
  obtain ⟨⟨_, other⟩, entry, rfl⟩ := List.mem_map.mp member
  cases here.symm.trans ((sound.swapped _ other).mp entry)
  exact unfinished rfl

/-- A swap that succeeds replaces the current pair by one that differs in the component of the call only. -/
theorem Sound.publish (sound : Sound shared) {made : Nat}
    (here : shared.calls[call]? = some ⟨setting, .built shared.current made⟩) :
    Sound (shared.publish call setting made) := by
  obtain ⟨-, exists_, own⟩ := sound.fits call _ here
  have pairs : (shared.publish call setting made).pairs = shared.pairs := rfl
  have places : (shared.publish call setting made).published = shared.published ++ [made] := rfl
  have grows : shared.published ⊆ (shared.publish call setting made).published := List.subset_append_left _ _
  have others {number : Nat} (differ : call ≠ number) :
      (shared.publish call setting made).calls[number]? = shared.calls[number]? :=
    calls_advance_of_ne differ .finished
  have self : (shared.publish call setting made).calls[call]? = some ⟨setting, .finished⟩ :=
    calls_advance_self here .finished
  have fresh : call ∉ shared.swaps.map Prod.fst := sound.not_swapped here nofun
  refine ⟨fun place member => ?_, fun place member => grows (sound.taken place member), fun number found found_ => ?_,
    ?_, ?_, fun number other => ?_⟩
  · rw [pairs]
    rcases List.mem_append.mp (places ▸ member) with before | last
    · exact sound.made place before
    · exact List.mem_singleton.mp last ▸ exists_
  · by_cases same : call = number
    · subst same
      cases self.symm.trans found_
      trivial
    · rw [others same] at found_
      have pairsSame : shared.pairs <+: (shared.publish call setting made).pairs := List.prefix_rfl
      exact fits_of_grows sound.made pairsSame grows (sound.fits number found found_)
  · have swaps : (shared.publish call setting made).swaps.map Prod.snd = shared.swaps.map Prod.snd ++ [setting] :=
      List.map_append
    rw [swaps, List.scanl_append, ← sound.history, ← sound.pairAt_current, places, List.map_append]
    exact congrArg (fun pair => shared.published.map shared.pairAt ++ [pair]) own
  · have swaps : (shared.publish call setting made).swaps.map Prod.fst = shared.swaps.map Prod.fst ++ [call] :=
      List.map_append
    rw [swaps]
    rw [← List.concat_eq_append]
    exact sound.once.concat fresh
  · have swaps : (shared.publish call setting made).swaps = shared.swaps ++ [(call, setting)] := rfl
    rw [swaps, List.mem_append, List.mem_singleton]
    by_cases same : call = number
    · subst same
      have absent : (call, other) ∉ shared.swaps := fun member => fresh (List.mem_map.mpr ⟨_, member, rfl⟩)
      rw [self]
      simp [absent, eq_comm]
    · rw [others same, ← sound.swapped]
      simp [Ne.symm same]

/-- Another call has not swapped yet. -/
theorem Sound.begin (sound : Sound shared) (setting : Setting) :
    Sound { shared with calls := shared.calls ++ [⟨setting, .waiting⟩] } := by
  refine ⟨sound.made, sound.taken, fun number found found_ => ?_, sound.history, sound.once, fun number other => ?_⟩
  · rcases List.mem_append.mp (List.mem_of_getElem? found_) with before | last
    · obtain ⟨place, here⟩ := List.mem_iff_getElem?.mp before
      exact sound.fits place found here
    · obtain rfl := List.mem_singleton.mp last
      trivial
  · refine (sound.swapped number other).trans ?_
    dsimp only
    rcases Nat.lt_trichotomy number shared.calls.length with earlier | rfl | later
    · rw [List.getElem?_append_left earlier]
    · rw [List.getElem?_concat_length, List.getElem?_eq_none (Nat.le_refl _)]
      simp
    · have outside : (shared.calls ++ [(⟨setting, .waiting⟩ : Call)]).length ≤ number := by
        rw [List.length_append]
        exact later
      rw [List.getElem?_eq_none (Nat.le_of_lt later), List.getElem?_eq_none outside]

/-- Every step keeps the invariant. -/
theorem Sound.next (sound : Sound shared) (event : Event) : Sound (shared.next event) := by
  have moves := moves_next shared event
  generalize shared.next event = after, shared.effect? event = effect at moves
  cases moves with
  | idle => exact sound
  | snapshot =>
      refine ⟨sound.made, fun place member => ?_, sound.fits, sound.history, sound.once, sound.swapped⟩
      rcases List.mem_append.mp member with before | last
      · exact sound.taken place before
      · obtain rfl := List.mem_singleton.mp last
        exact current_mem_published shared
  | call => exact sound.begin _
  | load here => exact sound.advance here nofun nofun (current_mem_published shared)
  | @build call place setting here =>
      have loaded : place ∈ shared.published := sound.fits call _ here
      have own := shared.pairAt_allocate (setting.apply (shared.pairAt place))
      have same := pairAt_of_grows (shared.prefix_allocate (setting.apply (shared.pairAt place)))
        (sound.made place loaded)
      refine (sound.allocate (setting.apply (shared.pairAt place))).advance here nofun nofun ⟨loaded, ?_, ?_⟩
      · exact List.length_append.symm ▸ Nat.lt_succ_self shared.pairs.length
      · rw [own, same]
  | publish here => exact sound.publish here
  | retry here => exact sound.advance here nofun nofun trivial

theorem sound_run (events : List Event) : Sound (new.run events) := by
  induction events using List.reverseRecOn with
  | nil => exact sound_new
  | append_singleton events event ih =>
      rw [run_append]
      exact ih.next event

/-! ## One call after the other -/

/-- Every event does its effect to what can be seen of the providers, and nothing else. -/
theorem Sound.cell_next (sound : Sound shared) (event : Event) :
    (shared.next event).cell = (shared.effect? event).toList.foldl ProviderCell.next shared.cell := by
  have moves := moves_next shared event
  generalize shared.next event = after, shared.effect? event = effect at moves
  cases moves with
  | idle | call | load | retry => rfl
  | snapshot => exact congrArg (ProviderCell.mk _) List.map_append
  | @build call place setting here =>
      have grows := shared.prefix_allocate (setting.apply (shared.pairAt place))
      have current := pairAt_of_grows grows (sound.made _ (current_mem_published shared))
      have snapshots := List.map_congr_left fun place member =>
        pairAt_of_grows grows (sound.made place (sound.taken place member))
      exact congrArg₂ ProviderCell.mk current snapshots
  | @publish call made setting here =>
      obtain ⟨-, -, own⟩ := sound.fits call _ here
      refine (congrArg (fun pair => ProviderCell.mk pair _) own).trans ?_
      cases setting <;> rfl

/-- The effects of events, in order. -/
def effects (shared : SharedProviders) : List Event → List ProviderCell.Event
  | [] => []
  | event :: events => (shared.effect? event).toList ++ effects (shared.next event) events

/-- What can be seen of the providers is a cell that is changed by one call after the other. -/
theorem Sound.cell_run (sound : Sound shared) (events : List Event) :
    (shared.run events).cell = (shared.effects events).foldl ProviderCell.next shared.cell := by
  induction events generalizing shared with
  | nil => rfl
  | cons event events ih =>
      rw [run_cons, ih (sound.next event), effects, List.foldl_append, ← sound.cell_next]

theorem snapshot?_eq (shared : SharedProviders) (number : Nat) :
    shared.snapshot? number = shared.cell.snapshots[number]? := List.getElem?_map.symm

/-- A snapshot stays what it is. -/
theorem Sound.snapshot_run (sound : Sound shared) {number : Nat} {pair : Providers}
    (taken : shared.snapshot? number = some pair) (events : List Event) :
    (shared.run events).snapshot? number = some pair := by
  induction events generalizing shared with
  | nil => exact taken
  | cons event events ih =>
      refine ih (sound.next event) ?_
      rw [snapshot?_eq] at taken ⊢
      rw [sound.cell_next]
      cases shared.effect? event with
      | none => exact taken
      | some effect => exact ProviderCell.snapshot_next taken effect

end

/-! ## What the calls set -/

theorem settings_advance (shared : SharedProviders) (call : Nat) (progress : Progress) :
    (shared.advance call progress).calls.map Call.setting = shared.calls.map Call.setting := by
  apply List.ext_getElem?
  intro number
  rw [List.getElem?_map, List.getElem?_map, calls_advance, Option.map_map]
  congr 1
  funext found
  simp only [Function.comp_apply]
  split <;> rfl

/-- Calls set with what they began, and are not forgotten. -/
theorem settings_next (shared : SharedProviders) (event : Event) :
    (shared.next event).calls.map Call.setting = shared.calls.map Call.setting ++ event.setting?.toList := by
  have moves := moves_next shared event
  generalize shared.next event = after, shared.effect? event = effect at moves
  cases moves with
  | idle begins =>
      rw [begins]
      exact (List.append_nil _).symm
  | snapshot => exact (List.append_nil _).symm
  | call => exact List.map_append
  | load => exact (settings_advance shared _ _).trans (List.append_nil _).symm
  | build => exact (settings_advance (shared.allocate _) _ _).trans (List.append_nil _).symm
  | publish => exact (settings_advance _ _ _).trans (List.append_nil _).symm
  | retry => exact (settings_advance shared _ _).trans (List.append_nil _).symm

theorem settings_run (events : List Event) :
    (new.run events).calls.map Call.setting = events.filterMap Event.setting? := by
  induction events using List.reverseRecOn with
  | nil => rfl
  | append_singleton events event ih =>
      rw [run_append, List.filterMap_append, ← ih]
      refine (settings_next (new.run events) event).trans ?_
      cases event <;> rfl

/-- Once all calls have finished, each of them has swapped, exactly once. -/
theorem Sound.swaps_perm {shared : SharedProviders} (sound : Sound shared)
    (finished : ∀ call ∈ shared.calls, call.progress = .finished) :
    (shared.swaps.map Prod.snd).Perm (shared.calls.map Call.setting) := by
  have entries : shared.swaps.Perm (shared.calls.zipIdx.map fun entry => (entry.2, entry.1.setting)) := by
    have numbered : (shared.calls.zipIdx.map fun entry => (entry.2, entry.1.setting)).map Prod.fst =
        shared.calls.zipIdx.map Prod.snd := List.map_map
    refine (List.perm_ext_iff_of_nodup (sound.once.of_map _) (.of_map Prod.fst ?_)).mpr ?_
    · rw [numbered, List.zipIdx_map_snd]
      exact List.nodup_range'
    · rintro ⟨number, setting⟩
      rw [sound.swapped, List.mem_map]
      constructor
      · intro here
        exact ⟨(_, number), List.mem_zipIdx_iff_getElem?.mpr here, rfl⟩
      · rintro ⟨⟨⟨own, progress⟩, place⟩, member, same⟩
        cases same
        have here := List.mem_zipIdx_iff_getElem?.mp member
        obtain rfl : progress = .finished := finished _ (List.mem_of_getElem? here)
        exact here
  have settings : (shared.calls.zipIdx.map fun entry => (entry.2, entry.1.setting)).map Prod.snd =
      shared.calls.map Call.setting := by
    calc (shared.calls.zipIdx.map fun entry => (entry.2, entry.1.setting)).map Prod.snd
        = shared.calls.zipIdx.map (Call.setting ∘ Prod.fst) := List.map_map
      _ = (shared.calls.zipIdx.map Prod.fst).map Call.setting := List.map_map.symm
      _ = shared.calls.map Call.setting := congrArg _ (List.zipIdx_map_fst 0 shared.calls)
  rw [← settings]
  exact entries.map Prod.snd

/-! ## Calls that go on undisturbed -/

section

variable {shared : SharedProviders} {call : Nat} {setting : Setting} {progress : Progress}

theorem next_load (here : shared.calls[call]? = some ⟨setting, .waiting⟩) :
    shared.next (.load call) = shared.advance call (.loaded shared.current) := by
  rw [next, here]

theorem next_build {place : Nat} (here : shared.calls[call]? = some ⟨setting, .loaded place⟩) :
    shared.next (.build call) = shared.build call setting place := by
  rw [next, here]

theorem next_swap {place made : Nat} (here : shared.calls[call]? = some ⟨setting, .built place made⟩) :
    shared.next (.swap call) =
      if shared.current = place then shared.publish call setting made else shared.advance call .waiting := by
  rw [next, here]

/-- A call that waits finishes if nobody disturbs it, and takes effect at its end. -/
theorem undisturbed (here : shared.calls[call]? = some ⟨setting, .waiting⟩) :
    (shared.run [.load call, .build call, .swap call]).calls[call]? = some ⟨setting, .finished⟩ ∧
      shared.effects [.load call, .build call, .swap call] = [setting.effect] := by
  have loaded := calls_advance_self here (.loaded shared.current)
  have built : ((shared.advance call (.loaded shared.current)).build call setting shared.current).calls[call]? =
      some ⟨setting, .built shared.current shared.pairs.length⟩ := calls_advance_self loaded _
  have finished := calls_advance_self built .finished
  have steps : shared.run [.load call, .build call, .swap call] =
      ((shared.advance call (.loaded shared.current)).build call setting shared.current).publish call setting
        shared.pairs.length := by
    rw [run_cons, next_load here, run_cons, next_build loaded, run_cons, next_swap built]
    exact if_pos rfl
  refine ⟨steps ▸ finished, ?_⟩
  rw [effects, effects, effects, next_load here, next_build loaded]
  unfold effect?
  dsimp only
  rw [built]
  exact congrArg (fun effect => Option.toList effect ++ []) (if_pos rfl)

/-- A call that has finished stays so. -/
theorem finished_run (here : shared.calls[call]? = some ⟨setting, .finished⟩) (events : List Event) :
    (shared.run events).calls[call]? = some ⟨setting, .finished⟩ := by
  induction events generalizing shared with
  | nil => exact here
  | cons event events ih =>
      refine ih ?_
      have moves := moves_next shared event
      generalize shared.next event = after, shared.effect? event = effect at moves
      have differ {other : Nat} {progress : Progress} {setting : Setting}
          (there : shared.calls[other]? = some ⟨setting, progress⟩) (unfinished : progress ≠ .finished) :
          other ≠ call := by
        rintro rfl
        cases here.symm.trans there
        exact unfinished rfl
      cases moves with
      | idle | snapshot => exact here
      | call => exact (List.getElem?_append_left (List.getElem?_eq_some_iff.mp here).1).trans here
      | load there | build there | publish there | retry there =>
          exact (calls_advance_of_ne (differ there nofun) _).trans here

/-- A call that tries to swap either finishes, or waits again. -/
theorem finished_or_waiting (here : shared.calls[call]? = some ⟨setting, progress⟩) :
    (shared.run [.build call, .swap call]).calls[call]? = some ⟨setting, .finished⟩ ∨
      (shared.run [.build call, .swap call]).calls[call]? = some ⟨setting, .waiting⟩ := by
  have swaps {shared : SharedProviders} {place made : Nat}
      (here : shared.calls[call]? = some ⟨setting, .built place made⟩) :
      (shared.next (.swap call)).calls[call]? = some ⟨setting, .finished⟩ ∨
        (shared.next (.swap call)).calls[call]? = some ⟨setting, .waiting⟩ := by
    rw [next_swap here]
    split
    · exact Or.inl (calls_advance_self here .finished)
    · exact Or.inr (calls_advance_self here .waiting)
  have stays (none : ∀ place, progress ≠ .loaded place) : shared.next (.build call) = shared := by
    rw [next, here]
    split
    · next found => cases found; exact absurd rfl (none _)
    · rfl
  rw [run_cons, run_cons]
  cases progress with
  | waiting =>
      rw [stays nofun]
      refine Or.inr ?_
      rw [next, here]
      exact here
  | loaded place =>
      rw [next_build here]
      exact swaps (calls_advance_self here _)
  | built place made =>
      rw [stays nofun]
      exact swaps here
  | finished => exact Or.inl (finished_run here [.build call, .swap call])

/-- Every call can be brought to its end by steps of its own. -/
theorem finished_of_steps (here : shared.calls[call]? = some ⟨setting, progress⟩) :
    (shared.run [.build call, .swap call, .load call, .build call, .swap call]).calls[call]? =
      some ⟨setting, .finished⟩ := by
  have split : shared.run [.build call, .swap call, .load call, .build call, .swap call] =
      (shared.run [.build call, .swap call]).run [.load call, .build call, .swap call] := rfl
  rw [split]
  rcases finished_or_waiting here with finished | waiting
  · exact finished_run finished _
  · exact (undisturbed waiting).1

end

/-! ## Whole runs -/

/-- Whatever the order of the steps of any number of calls: the pairs that were published come one from the other by a
swap that sets one component and keeps the other one, so the current pair has the last provider of each kind that was
swapped in, or the standard one; every call that has finished has swapped exactly once, and once all have, nothing that
was set is missing.  Every call can finish, wherever the others stop: five steps of its own are enough.  What can be
seen is a cell that is changed by one call after the other.  A snapshot is the pair of its moment, whatever is set
later. -/
theorem updates_take_effect_once (events : List Event) :
    let shared := new.run events
    let settings := shared.swaps.map Prod.snd
    shared.published.map shared.pairAt = settings.scanl Setting.apply .standard ∧
      shared.cell.current =
        ⟨lastWritten Setting.context? ContextProvider.request settings,
          lastWritten Setting.loaders? LoaderProvider.nothing settings⟩ ∧
      (shared.swaps.map Prod.fst).Nodup ∧
      (∀ number setting, (number, setting) ∈ shared.swaps ↔ shared.calls[number]? = some ⟨setting, .finished⟩) ∧
      shared.calls.map Call.setting = events.filterMap Event.setting? ∧
      ((∀ call ∈ shared.calls, call.progress = .finished) → settings.Perm (events.filterMap Event.setting?)) ∧
      (∀ number call, shared.calls[number]? = some call →
        (new.run (events ++ [.build number, .swap number, .load number, .build number, .swap number])).calls[number]? =
          some ⟨call.setting, .finished⟩) ∧
      shared.cell = (new.effects events).foldl ProviderCell.next .new ∧
      ∀ before after, events = before ++ .snapshot :: after →
        shared.snapshot? (new.run before).snapshots.length = some (new.run before).cell.current := by
  intro shared settings
  have sound : Sound shared := sound_run events
  refine ⟨sound.history, ?_, sound.once, sound.swapped, settings_run events, fun finished => ?_,
    fun number call here => ?_, sound_new.cell_run events, ?_⟩
  · exact sound.pairAt_current.trans (Setting.foldl_apply .standard settings)
  · rw [← settings_run events]
    exact sound.swaps_perm finished
  · rw [run_append]
    exact finished_of_steps here
  · rintro before after rfl
    have taken : ((new.run before).next .snapshot).snapshot? (new.run before).snapshots.length =
        some (new.run before).cell.current := by
      unfold snapshot? next
      dsimp only
      rw [List.getElem?_concat_length]
      rfl
    have kept := ((sound_run before).next .snapshot).snapshot_run taken after
    have same : shared = ((new.run before).next .snapshot).run after := run_append _ _ _
    rw [same]
    exact kept

/-- Two calls of different kinds load the same pair, and the second swap fails. -/
def collision : List Event :=
  [.call (.context (.constant "x")), .call (.loaders (.keys ["k"])), .load 0, .load 1, .build 0, .build 1, .swap 1,
    .swap 0]

/-- The call whose swap failed is tried again after a snapshot: nothing is missing in the end, and the snapshot stays
as it was taken. -/
theorem collision_tried_again :
    let shared := new.run (collision ++ .snapshot :: [.load 0, .build 0, .swap 0])
    (∀ call ∈ shared.calls, call.progress = .finished) ∧
      (shared.swaps.map Prod.snd).Perm [.context (.constant "x"), .loaders (.keys ["k"])] ∧
      shared.cell.current = ⟨.constant "x", .keys ["k"]⟩ ∧ shared.snapshot? 0 = some ⟨.request, .keys ["k"]⟩ := by
  obtain ⟨-, current, -, -, -, complete, -, -, snapshots⟩ :=
    updates_take_effect_once (collision ++ .snapshot :: [.load 0, .build 0, .swap 0])
  have finished : ∀ call ∈ (new.run (collision ++ .snapshot :: [.load 0, .build 0, .swap 0])).calls,
      call.progress = .finished := by
    decide
  exact ⟨finished, complete finished, current, snapshots collision _ rfl⟩

end SharedProviders

end QueryGateway.GraphQL
