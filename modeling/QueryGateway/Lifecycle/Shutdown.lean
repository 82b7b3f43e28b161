import QueryGateway.Lifecycle.Broadcast

/-!
# Shutdown

Handles and waiters of one shutdown signal.  A handle sends on a channel that has room for one message, and a waiter
waits until its receiver is given anything at all: a signal, word that it has missed some, or that nobody is left who
could give one.  A waiter that was released or dropped is gone, and its receiver with it.
Main statement: what a waiter sees depends on nothing but how many signals were sent since its subscription, and on
whether a handle is left.
-/

namespace QueryGateway.Lifecycle

/-- One shutdown signal. -/
structure Shutdown where
  channel : Broadcast
  deriving DecidableEq, Repr

namespace Shutdown

/-- The signal with one handle and no waiter. -/
def new : Shutdown := ⟨.new 1⟩

/-- What a waiter sees. -/
inductive Sight where
  | pending
  | ready
  | gone
  deriving DecidableEq, Repr

/-- What happens to a shutdown signal.  Handles and waiters are numbered in the order of their making. -/
inductive Event where
  | subscribe (handle : Nat)
  | clone (handle : Nat)
  | trigger (handle : Nat)
  | drop (handle : Nat)
  | dropWaiter (waiter : Nat)
  | poll (waiter : Nat)
  deriving DecidableEq, Repr

/-- Whether a handle exists. -/
def hasHandle (shutdown : Shutdown) (handle : Nat) : Bool := shutdown.channel.hasSender handle

/-- How many waiters were made. -/
def waiterCount (shutdown : Shutdown) : Nat := shutdown.channel.receivers.length

/-- How many waiters listen. -/
def receiverCount (shutdown : Shutdown) : Nat := shutdown.channel.receiverCount

/-- What a waiter sees when it looks. -/
def sight (shutdown : Shutdown) (waiter : Nat) : Sight :=
  match shutdown.channel.receive? waiter with
  | none => .gone
  | some (.nothing, _) => .pending
  | some _ => .ready

/-- The signal after a waiter has looked: whatever it is given, it is done. -/
def poll (shutdown : Shutdown) (waiter : Nat) : Shutdown :=
  match shutdown.channel.receive? waiter with
  | none => shutdown
  | some (.nothing, channel) => ⟨channel⟩
  | some (_, channel) => ⟨channel.dropReceiver waiter⟩

/-- The signal after an event; with a handle that does not exist nothing happens. -/
def next (shutdown : Shutdown) : Event → Shutdown
  | .subscribe handle => if shutdown.hasHandle handle then ⟨shutdown.channel.subscribe⟩ else shutdown
  | .clone handle => if shutdown.hasHandle handle then ⟨shutdown.channel.cloneSender⟩ else shutdown
  | .trigger handle => if shutdown.hasHandle handle then ⟨shutdown.channel.send⟩ else shutdown
  | .drop handle => ⟨shutdown.channel.dropSender handle⟩
  | .dropWaiter waiter => ⟨shutdown.channel.dropReceiver waiter⟩
  | .poll waiter => shutdown.poll waiter

/-- The signal after a sequence of events. -/
def run (shutdown : Shutdown) (events : List Event) : Shutdown := events.foldl next shutdown

/-- A waiter waits for the message with a number. -/
def Awaits (shutdown : Shutdown) (waiter number : Nat) : Prop :=
  shutdown.channel.receivers[waiter]? = some (some number)

/-- A waiter was made, and is gone. -/
def HasLeft (shutdown : Shutdown) (waiter : Nat) : Prop := shutdown.channel.receivers[waiter]? = some none

theorem run_cons (shutdown : Shutdown) (event : Event) (events : List Event) :
    shutdown.run (event :: events) = (shutdown.next event).run events := rfl

theorem run_append (shutdown : Shutdown) (events others : List Event) :
    shutdown.run (events ++ others) = (shutdown.run events).run others := List.foldl_append

section

variable {shutdown : Shutdown} {waiter number : Nat}

theorem receive?_of_awaits (awaits : shutdown.Awaits waiter number) :
    ∃ channel, shutdown.channel.receive? waiter = some (shutdown.channel.reception number, channel) := by
  unfold Broadcast.receive?
  rw [awaits]
  exact ⟨_, rfl⟩

theorem sight_of_hasLeft (left : shutdown.HasLeft waiter) : shutdown.sight waiter = .gone := by
  unfold sight Broadcast.receive?
  rw [left]

/-- A waiter waits on if there is no signal for it, and a handle is left. -/
theorem sight_of_awaits (awaits : shutdown.Awaits waiter number) :
    shutdown.sight waiter = if shutdown.channel.sent ≤ number ∧ shutdown.channel.isOpen then .pending else .ready := by
  obtain ⟨channel, received⟩ := receive?_of_awaits awaits
  have waits := @Broadcast.reception_eq_nothing_iff shutdown.channel number
  unfold sight
  rw [received]
  cases given : shutdown.channel.reception number with
  | nothing => rw [if_pos (waits.mp given)]
  | message | lagged | closed =>
      rw [given] at waits
      rw [if_neg fun nothing => nomatch waits.mpr nothing]

end

end Shutdown

end QueryGateway.Lifecycle
