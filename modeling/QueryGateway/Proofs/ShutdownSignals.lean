import Mathlib.Data.List.Induction
import QueryGateway.Lifecycle.Shutdown

/-!
# Shutdown signals

What the waiters of a shutdown signal see after any sequence of events.  A waiter is gone if it was dropped, or was
released when it looked.  As long as it is not gone, it is released when it looks if and only if a signal was given
since it subscribed, however many there were, or no handle is left; otherwise it waits on.
Every step is followed for one waiter: the number that it awaits stays, and the number of signals grows with every
signal while it listens.  Which handles are left is told by the clones and the drops.
-/

namespace QueryGateway.Lifecycle.Shutdown

/-! ## What one event is -/

/-- A signal is given with a handle that exists. -/
def Fires (shutdown : Shutdown) (event : Event) : Prop :=
  ∃ handle, event = .trigger handle ∧ shutdown.hasHandle handle = true

/-- A waiter is dropped, or looks and is released. -/
def Leaves (waiter : Nat) (shutdown : Shutdown) (event : Event) : Prop :=
  event = .dropWaiter waiter ∨ (event = .poll waiter ∧ shutdown.sight waiter = .ready)

/-- Among events that happen one after the other is one with a property. -/
def Meets (Holds : Shutdown → Event → Prop) (shutdown : Shutdown) : List Event → Prop
  | [] => False
  | event :: events => Holds shutdown event ∨ Meets Holds (shutdown.next event) events

theorem meets_append {Holds : Shutdown → Event → Prop} {shutdown : Shutdown} {events others : List Event} :
    shutdown.Meets Holds (events ++ others) ↔
      shutdown.Meets Holds events ∨ (shutdown.run events).Meets Holds others := by
  induction events generalizing shutdown with
  | nil => exact (or_iff_right not_false).symm
  | cons event events ih => exact (or_congr_right ih).trans or_assoc.symm

/-! ## What one event changes -/

/-- A waiter that is released when it looks is gone; otherwise looking changes nothing. -/
theorem poll_eq (shutdown : Shutdown) (waiter : Nat) :
    shutdown.poll waiter =
      if shutdown.sight waiter = .ready then ⟨shutdown.channel.dropReceiver waiter⟩ else shutdown := by
  rcases place : shutdown.channel.receivers[waiter]? with _ | _ | number
  · simp [poll, sight, Broadcast.receive?, place]
  · simp [poll, sight, Broadcast.receive?, place]
  by_cases nothing : shutdown.channel.reception number = .nothing
  · simp [poll, sight, Broadcast.receive?_of_nothing place nothing]
  · simp [poll, sight, Broadcast.receive?, Broadcast.dropReceiver, place, nothing]

/-- What an event makes of the signal. -/
inductive Moves (shutdown : Shutdown) : Event → Shutdown → Prop
  /-- The handle does not exist, or the waiter is not released. -/
  | idle {event : Event} : Moves shutdown event shutdown
  | subscribe {handle : Nat} (here : shutdown.hasHandle handle = true) :
      Moves shutdown (.subscribe handle) ⟨shutdown.channel.subscribe⟩
  | clone {handle : Nat} (here : shutdown.hasHandle handle = true) :
      Moves shutdown (.clone handle) ⟨shutdown.channel.cloneSender⟩
  | trigger {handle : Nat} (here : shutdown.hasHandle handle = true) :
      Moves shutdown (.trigger handle) ⟨shutdown.channel.send⟩
  | drop {handle : Nat} : Moves shutdown (.drop handle) ⟨shutdown.channel.dropSender handle⟩
  | dropWaiter {waiter : Nat} : Moves shutdown (.dropWaiter waiter) ⟨shutdown.channel.dropReceiver waiter⟩
  | release {waiter : Nat} (released : shutdown.sight waiter = .ready) :
      Moves shutdown (.poll waiter) ⟨shutdown.channel.dropReceiver waiter⟩

theorem moves_next (shutdown : Shutdown) (event : Event) : Moves shutdown event (shutdown.next event) := by
  cases event with
  | subscribe handle =>
      rw [next]
      split
      · next here => exact .subscribe here
      · exact .idle
  | clone handle =>
      rw [next]
      split
      · next here => exact .clone here
      · exact .idle
  | trigger handle =>
      rw [next]
      split
      · next here => exact .trigger here
      · exact .idle
  | drop handle => exact .drop
  | dropWaiter waiter => exact .dropWaiter
  | poll waiter =>
      rw [next, poll_eq]
      split
      · next released => exact .release released
      · exact .idle

section

variable {shutdown : Shutdown} {waiter number : Nat}

theorem made_of_awaits (awaits : shutdown.Awaits waiter number) : waiter < shutdown.waiterCount :=
  (List.getElem?_eq_some_iff.mp awaits).1

theorem hasLeft_dropReceiver (made : waiter < shutdown.waiterCount) :
    HasLeft ⟨shutdown.channel.dropReceiver waiter⟩ waiter :=
  List.getElem?_set_self made

theorem hasLeft_next_of_leaves {event : Event} (made : waiter < shutdown.waiterCount)
    (leaves : Leaves waiter shutdown event) : (shutdown.next event).HasLeft waiter := by
  rcases leaves with rfl | ⟨rfl, released⟩
  · exact hasLeft_dropReceiver made
  · rw [next, poll_eq, if_pos released]
    exact hasLeft_dropReceiver made

/-- A waiter that does not leave keeps its place. -/
theorem place_next {event : Event} (made : waiter < shutdown.waiterCount) (stays : ¬Leaves waiter shutdown event) :
    (shutdown.next event).channel.receivers[waiter]? = shutdown.channel.receivers[waiter]? := by
  have others {other : Nat} (differ : other ≠ waiter) :
      (shutdown.channel.dropReceiver other).receivers[waiter]? = shutdown.channel.receivers[waiter]? :=
    List.getElem?_set_ne differ
  have moves := moves_next shutdown event
  generalize shutdown.next event = after at moves
  cases moves with
  | idle | clone | drop => rfl
  | subscribe => exact List.getElem?_append_left made
  | trigger => exact congrArg (fun receivers => receivers[waiter]?) shutdown.channel.receivers_send
  | dropWaiter => exact others fun same => stays (Or.inl (congrArg Event.dropWaiter same))
  | release released =>
      refine others fun same => stays (Or.inr ?_)
      rw [← same]
      exact ⟨rfl, released⟩

/-- A waiter that is gone stays gone. -/
theorem hasLeft_next (left : shutdown.HasLeft waiter) (event : Event) : (shutdown.next event).HasLeft waiter := by
  have made : waiter < shutdown.waiterCount := (List.getElem?_eq_some_iff.mp left).1
  by_cases leaves : Leaves waiter shutdown event
  · exact hasLeft_next_of_leaves made leaves
  · exact (place_next made leaves).trans left

theorem hasLeft_run (left : shutdown.HasLeft waiter) (events : List Event) : (shutdown.run events).HasLeft waiter := by
  induction events generalizing shutdown with
  | nil => exact left
  | cons event events ih => exact ih (hasLeft_next left event)

/-- Somebody listens as long as a waiter awaits a signal. -/
theorem receiverCount_ne_zero (awaits : shutdown.Awaits waiter number) : shutdown.channel.receiverCount ≠ 0 := by
  have listens : some number ∈ shutdown.channel.receivers := List.mem_of_getElem? awaits
  exact Nat.pos_iff_ne_zero.mp (List.countP_pos_iff.mpr ⟨some number, listens, rfl⟩)

theorem sent_next_of_fires {event : Event} (awaits : shutdown.Awaits waiter number)
    (fires : Fires shutdown event) : (shutdown.next event).channel.sent = shutdown.channel.sent + 1 := by
  obtain ⟨handle, rfl, here⟩ := fires
  rw [next, if_pos here, Broadcast.send, if_neg (receiverCount_ne_zero awaits)]

/-- Nothing else is a signal. -/
theorem sent_next_of_not_fires {event : Event} (silent : ¬Fires shutdown event) :
    (shutdown.next event).channel.sent = shutdown.channel.sent := by
  have moves := moves_next shutdown event
  generalize shutdown.next event = after at moves
  cases moves with
  | idle | subscribe | clone | drop | dropWaiter | release => rfl
  | trigger here => exact absurd ⟨_, rfl, here⟩ silent

end

/-! ## The fate of a waiter -/

/-- What has become of a waiter that awaits the signal with a number, after events: it has left, or it still awaits
that signal, which was given if and only if it had been given before or one was given among the events. -/
structure Fate (shutdown : Shutdown) (events : List Event) (waiter number : Nat) : Prop where
  left : shutdown.Meets (Leaves waiter) events → (shutdown.run events).HasLeft waiter
  awaits : ¬shutdown.Meets (Leaves waiter) events → (shutdown.run events).Awaits waiter number
  given : ¬shutdown.Meets (Leaves waiter) events →
    (number < (shutdown.run events).channel.sent ↔ number < shutdown.channel.sent ∨ shutdown.Meets Fires events)

/-- A signal that a waiter awaits is at most the next one. -/
theorem fate {shutdown : Shutdown} {waiter number : Nat} (awaits : shutdown.Awaits waiter number)
    (next : number ≤ shutdown.channel.sent) (events : List Event) : Fate shutdown events waiter number := by
  induction events generalizing shutdown with
  | nil => exact ⟨False.elim, fun _ => awaits, fun _ => (or_iff_left not_false).symm⟩
  | cons event events ih =>
      have made := made_of_awaits awaits
      by_cases leaves : Leaves waiter shutdown event
      · have gone := hasLeft_run (hasLeft_next_of_leaves made leaves) events
        exact ⟨fun _ => gone, fun stays => absurd (Or.inl leaves) stays, fun stays => absurd (Or.inl leaves) stays⟩
      have still : (shutdown.next event).Awaits waiter number := (place_next made leaves).trans awaits
      have grows : number ≤ (shutdown.next event).channel.sent ∧
          (number < (shutdown.next event).channel.sent ↔ number < shutdown.channel.sent ∨ Fires shutdown event) := by
        by_cases fires : Fires shutdown event
        · rw [sent_next_of_fires awaits fires]
          exact ⟨Nat.le_succ_of_le next, fun _ => Or.inr fires, fun _ => Nat.lt_succ_of_le next⟩
        · rw [sent_next_of_not_fires fires]
          exact ⟨next, Or.inl, fun given => given.resolve_right fires⟩
      have rest := ih still grows.1
      refine ⟨fun meets => rest.left (meets.resolve_left leaves), fun stays => rest.awaits (stays ∘ Or.inr),
        fun stays => ?_⟩
      rw [run_cons, rest.given (stays ∘ Or.inr), grows.2, or_assoc]
      rfl

/-- What a waiter sees after events that follow its subscription. -/
structure SeesSignals (subscribed : Shutdown) (waiter : Nat) (events : List Event) : Prop where
  gone : (subscribed.run events).sight waiter = .gone ↔ subscribed.Meets (Leaves waiter) events
  ready : (subscribed.run events).sight waiter = .ready ↔ ¬subscribed.Meets (Leaves waiter) events ∧
    (subscribed.Meets Fires events ∨ ∀ handle, (subscribed.run events).hasHandle handle = false)
  pending : (subscribed.run events).sight waiter = .pending ↔ ¬subscribed.Meets (Leaves waiter) events ∧
    ¬subscribed.Meets Fires events ∧ ∃ handle, (subscribed.run events).hasHandle handle = true

/-- A waiter that awaits the next signal sees all signals from now on, and nothing else. -/
theorem seesSignals_of_awaits {shutdown : Shutdown} {waiter : Nat}
    (awaits : shutdown.Awaits waiter shutdown.channel.sent) (events : List Event) :
    SeesSignals shutdown waiter events := by
  have became := fate awaits (Nat.le_refl _) events
  have abandoned : (∀ handle, (shutdown.run events).hasHandle handle = false) ↔
      ¬∃ handle, (shutdown.run events).hasHandle handle = true := by
    simp only [not_exists, Bool.not_eq_true]
  by_cases leaves : shutdown.Meets (Leaves waiter) events
  · have sees := sight_of_hasLeft (became.left leaves)
    constructor <;> simp [sees, leaves]
  have given : shutdown.channel.sent < (shutdown.run events).channel.sent ↔ shutdown.Meets Fires events := by
    rw [became.given leaves]
    exact or_iff_right (Nat.lt_irrefl _)
  have waits : (shutdown.run events).channel.sent ≤ shutdown.channel.sent ∧
      (shutdown.run events).channel.isOpen = true ↔
        ¬shutdown.Meets Fires events ∧ ∃ handle, (shutdown.run events).hasHandle handle = true := by
    rw [← Nat.not_lt, given, Broadcast.isOpen_iff]
    rfl
  have sees := sight_of_awaits (became.awaits leaves)
  by_cases waiting : ¬shutdown.Meets Fires events ∧ ∃ handle, (shutdown.run events).hasHandle handle = true
  · rw [if_pos (waits.mpr waiting)] at sees
    constructor <;> simp [sees, leaves, abandoned, waiting.1, waiting.2]
  · rw [if_neg (mt waits.mp waiting)] at sees
    have released : shutdown.Meets Fires events ∨ ∀ handle, (shutdown.run events).hasHandle handle = false := by
      rw [abandoned]
      exact (not_and_or.mp waiting).imp_left not_not.mp
    constructor
    · simp [sees, leaves]
    · simp [sees, leaves, released]
    · simp [sees, leaves, waiting]

/-! ## Handles -/

/-- How many handles were made. -/
def handleCount (shutdown : Shutdown) : Nat := shutdown.channel.senders.length

section

variable {shutdown : Shutdown} {handle : Nat}

theorem hasHandle_iff : shutdown.hasHandle handle = true ↔ shutdown.channel.senders[handle]? = some true :=
  decide_eq_true_iff

theorem hasHandle_drop {other : Nat} :
    (shutdown.next (.drop other)).hasHandle handle = true ↔ shutdown.hasHandle handle = true ∧ other ≠ handle := by
  rw [hasHandle_iff, hasHandle_iff]
  simp only [next, Broadcast.dropSender, List.getElem?_set]
  by_cases same : other = handle
  · rw [if_pos same]
    constructor
    · intro here
      split at here <;> cases here
    · intro here
      exact absurd same here.2
  · rw [if_neg same]
    exact (and_iff_left same).symm

theorem hasHandle_clone {parent : Nat} (here : shutdown.hasHandle parent = true) :
    (shutdown.next (.clone parent)).hasHandle handle = true ↔
      shutdown.hasHandle handle = true ∨ handle = shutdown.handleCount := by
  rw [next, if_pos here, hasHandle_iff, hasHandle_iff, handleCount, Broadcast.cloneSender]
  rcases Nat.lt_trichotomy handle shutdown.channel.senders.length with earlier | rfl | later
  · rw [List.getElem?_append_left earlier]
    exact (or_iff_left (Nat.ne_of_lt earlier)).symm
  · exact iff_of_true List.getElem?_concat_length (Or.inr rfl)
  · have outside : (shutdown.channel.senders ++ [true]).length ≤ handle := by
      rw [List.length_append]
      exact later
    rw [List.getElem?_eq_none outside, List.getElem?_eq_none (Nat.le_of_lt later)]
    simp [Nat.ne_of_gt later]

/-- Only clones and drops concern the handles. -/
theorem senders_next {event : Event} (clones : ∀ parent, event ≠ .clone parent) (drops : ∀ other, event ≠ .drop other) :
    (shutdown.next event).channel.senders = shutdown.channel.senders := by
  have moves := moves_next shutdown event
  generalize shutdown.next event = after at moves
  cases moves with
  | idle | subscribe | dropWaiter | release => rfl
  | trigger => exact shutdown.channel.senders_send
  | clone => exact absurd rfl (clones _)
  | drop => exact absurd rfl (drops _)

/-- A handle exists after an event if it existed and is not dropped, or if the event makes it. -/
theorem hasHandle_next_iff {event : Event} :
    (shutdown.next event).hasHandle handle = true ↔
      (shutdown.hasHandle handle = true ∧ event ≠ .drop handle) ∨
        ∃ parent, event = .clone parent ∧ shutdown.hasHandle parent = true ∧ handle = shutdown.handleCount := by
  by_cases drops : ∃ other, event = .drop other
  · obtain ⟨other, rfl⟩ := drops
    simp [hasHandle_drop]
  by_cases clones : ∃ parent, event = .clone parent
  · obtain ⟨parent, rfl⟩ := clones
    by_cases here : shutdown.hasHandle parent = true
    · simp [hasHandle_clone here, here]
    · simp [next, here]
  have same := @senders_next shutdown event (not_exists.mp clones) (not_exists.mp drops)
  rw [hasHandle, hasHandle, Broadcast.hasSender, Broadcast.hasSender, same]
  simp [not_exists.mp drops, not_exists.mp clones]

/-- Once no handle is left, none comes back. -/
theorem hasHandle_next_of_abandoned (abandoned : ∀ handle, shutdown.hasHandle handle = false) (event : Event)
    (handle : Nat) : (shutdown.next event).hasHandle handle = false := by
  have none (other : Nat) : ¬shutdown.hasHandle other = true := Bool.eq_false_iff.mp (abandoned other)
  refine Bool.eq_false_iff.mpr fun here => ?_
  rcases hasHandle_next_iff.mp here with ⟨before, -⟩ | ⟨parent, -, before, -⟩
  · exact none handle before
  · exact none parent before

/-- A handle is the first one, or was cloned with a handle of that time, and has not been dropped since. -/
def Kept (events : List Event) (handle : Nat) : Prop :=
  (handle = 0 ∧ .drop handle ∉ events) ∨
    ∃ before parent after, events = before ++ .clone parent :: after ∧ (new.run before).hasHandle parent = true ∧
      handle = (new.run before).handleCount ∧ .drop handle ∉ after

theorem kept_concat_iff {events : List Event} {event : Event} :
    Kept (events ++ [event]) handle ↔ (Kept events handle ∧ event ≠ .drop handle) ∨
      ∃ parent, event = .clone parent ∧ (new.run events).hasHandle parent = true ∧
        handle = (new.run events).handleCount := by
  unfold Kept
  constructor
  · rintro (⟨rfl, kept⟩ | ⟨before, parent, after, split, here, number, kept⟩)
    · simp only [List.mem_append, List.mem_singleton, not_or] at kept
      exact Or.inl ⟨Or.inl ⟨rfl, kept.1⟩, kept.2 ∘ Eq.symm⟩
    rcases List.eq_nil_or_concat after with rfl | ⟨rest, last, rfl⟩
    · obtain ⟨rfl, same⟩ := List.append_inj' split rfl
      exact Or.inr ⟨parent, List.singleton_inj.mp same, here, number⟩
    · rw [List.concat_eq_append] at kept split
      rw [← List.cons_append, ← List.append_assoc] at split
      obtain ⟨rfl, same⟩ := List.append_inj' split rfl
      obtain rfl := List.singleton_inj.mp same
      simp only [List.mem_append, List.mem_singleton, not_or] at kept
      exact Or.inl ⟨Or.inr ⟨before, parent, rest, rfl, here, number, kept.1⟩, kept.2 ∘ Eq.symm⟩
  · rintro (⟨⟨rfl, kept⟩ | ⟨before, parent, after, rfl, here, number, kept⟩, stays⟩ | ⟨parent, rfl, here, number⟩)
    · exact Or.inl ⟨rfl, by simp [kept, stays.symm]⟩
    · exact Or.inr ⟨before, parent, after ++ [event], List.append_assoc _ _ _, here, number,
        by simp [kept, stays.symm]⟩
    · exact Or.inr ⟨events, parent, [], rfl, here, number, List.not_mem_nil⟩

/-- The handles of a run are those that were made and not dropped since. -/
theorem hasHandle_run_iff {events : List Event} : (new.run events).hasHandle handle = true ↔ Kept events handle := by
  induction events using List.reverseRecOn with
  | nil => cases handle <;> simp [Kept, run, new, hasHandle, Broadcast.hasSender, Broadcast.new]
  | append_singleton events event ih =>
      rw [run_append, kept_concat_iff, ← ih]
      exact hasHandle_next_iff

end

/-! ## Whole runs -/

/-- With a handle another waiter is made, which awaits the next signal. -/
theorem awaits_of_subscribe {shutdown : Shutdown} {handle : Nat} (here : shutdown.hasHandle handle = true) :
    (shutdown.next (.subscribe handle)).Awaits shutdown.waiterCount
      (shutdown.next (.subscribe handle)).channel.sent := by
  rw [next, if_pos here]
  exact List.getElem?_concat_length

/-- A subscription is the only event that makes a waiter. -/
theorem waiterCount_next (shutdown : Shutdown) (event : Event) :
    (shutdown.next event).waiterCount = shutdown.waiterCount ∨
      ((shutdown.next event).waiterCount = shutdown.waiterCount + 1 ∧
        ∃ handle, event = .subscribe handle ∧ shutdown.hasHandle handle = true) := by
  have moves := moves_next shutdown event
  generalize shutdown.next event = after at moves
  cases moves with
  | idle | clone | drop => exact Or.inl rfl
  | subscribe here => exact Or.inr ⟨List.length_append, _, rfl, here⟩
  | trigger => exact Or.inl (congrArg List.length shutdown.channel.receivers_send)
  | dropWaiter | release => exact Or.inl List.length_set

/-- Every waiter of a run was made by a subscription with a handle of that time. -/
theorem subscribed_of_waiter {events : List Event} {waiter : Nat} (made : waiter < (new.run events).waiterCount) :
    ∃ before handle after, events = before ++ .subscribe handle :: after ∧
      (new.run before).hasHandle handle = true ∧ waiter = (new.run before).waiterCount := by
  induction events using List.reverseRecOn with
  | nil => exact absurd made (Nat.not_lt_zero waiter)
  | append_singleton events event ih =>
      have earlier (made : waiter < (new.run events).waiterCount) :
          ∃ before handle after, events ++ [event] = before ++ .subscribe handle :: after ∧
            (new.run before).hasHandle handle = true ∧ waiter = (new.run before).waiterCount := by
        obtain ⟨before, handle, after, rfl, here, number⟩ := ih made
        exact ⟨before, handle, after ++ [event], List.append_assoc _ _ _, here, number⟩
      rw [run_append] at made
      rcases waiterCount_next (new.run events) event with same | ⟨more, handle, rfl, here⟩
      · exact earlier (Nat.lt_of_lt_of_eq made same)
      · rcases Nat.lt_succ_iff_lt_or_eq.mp (Nat.lt_of_lt_of_eq made more) with before | last
        · exact earlier before
        · exact ⟨events, handle, [], rfl, here, last⟩

/-- Those who listen are the waiters that are not gone. -/
theorem receiverCount_eq_countP (shutdown : Shutdown) :
    shutdown.receiverCount =
      (List.range shutdown.waiterCount).countP fun waiter => decide (shutdown.sight waiter ≠ .gone) := by
  have places : shutdown.channel.receivers =
      (List.range shutdown.waiterCount).map fun waiter => (shutdown.channel.receivers[waiter]?).getD none := by
    apply List.ext_getElem
    · rw [List.length_map, List.length_range, waiterCount]
    · intro waiter made _
      simp [List.getElem?_eq_getElem made]
  unfold receiverCount Broadcast.receiverCount
  rw [places, List.countP_map]
  refine List.countP_congr fun waiter _ => ?_
  rcases place : shutdown.channel.receivers[waiter]? with _ | _ | number
  · simp [sight, Broadcast.receive?, place]
  · simp [sight, Broadcast.receive?, place]
  · have awaits : shutdown.Awaits waiter number := place
    have sees := sight_of_awaits awaits
    split at sees <;> simp [place, sees]

/-- In every run, each waiter sees the signals that are given after its subscription, and nothing else: it is gone if
and only if it was dropped or has been released; otherwise it is released when it looks if and only if a signal was
given since, with whatever handle and however many, or no handle is left.  A handle is left unless it was dropped.
Those who listen are always the waiters that are not gone. -/
theorem signals_of_run (events : List Event) :
    (∀ before handle after, events = before ++ .subscribe handle :: after →
        (new.run before).hasHandle handle = true →
          new.run events = ((new.run before).next (.subscribe handle)).run after ∧
          SeesSignals ((new.run before).next (.subscribe handle)) (new.run before).waiterCount after) ∧
      (∀ waiter < (new.run events).waiterCount, ∃ before handle after,
        events = before ++ .subscribe handle :: after ∧ (new.run before).hasHandle handle = true ∧
          waiter = (new.run before).waiterCount) ∧
      (∀ handle, (new.run events).hasHandle handle = true ↔ Kept events handle) ∧
      (new.run events).receiverCount =
        (List.range (new.run events).waiterCount).countP
          fun waiter => decide ((new.run events).sight waiter ≠ .gone) := by
  refine ⟨?_, fun _ made => subscribed_of_waiter made, fun _ => hasHandle_run_iff, receiverCount_eq_countP _⟩
  rintro before handle after rfl here
  exact ⟨run_append _ _ _, seesSignals_of_awaits (awaits_of_subscribe here) after⟩

/-- Two signals are given in a row, another waiter subscribes, and one of two handles is dropped. -/
def twoInARow : List Event := [.clone 0, .trigger 0, .trigger 1, .subscribe 1, .drop 0]

/-- The first waiter has missed a signal, and is released all the same; the second one has come too late for both. -/
theorem late_waiter_pending :
    let shutdown := new.run (.subscribe 0 :: twoInARow)
    shutdown.sight 0 = .ready ∧ shutdown.sight 1 = .pending ∧ shutdown.receiverCount = 2 := by
  obtain ⟨sees, -, -, listens⟩ := signals_of_run (.subscribe 0 :: twoInARow)
  obtain ⟨-, first⟩ := sees [] 0 twoInARow rfl (by decide)
  obtain ⟨-, second⟩ := sees [.subscribe 0, .clone 0, .trigger 0, .trigger 1] 1 [.drop 0] rfl (by decide)
  have fires : (new.next (.subscribe 0)).Meets Fires twoInARow := Or.inr (Or.inl ⟨0, rfl, by decide⟩)
  refine ⟨first.ready.mpr ⟨?_, Or.inl fires⟩, second.pending.mpr ⟨?_, ?_, 1, by decide⟩, listens.trans (by decide)⟩
  · simp [Meets, Leaves, twoInARow]
  · simp [Meets, Leaves]
  · simp [Meets, Fires]

end QueryGateway.Lifecycle.Shutdown
