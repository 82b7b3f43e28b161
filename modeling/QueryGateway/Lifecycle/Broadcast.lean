/-!
# Broadcast channels

Whoever holds a sender of a channel can put a message into it, and the message is given to every receiver of that
time.  Only the last messages are kept, as many as the channel has room for: a receiver that fell further behind is
told how many it has missed, and goes on with the oldest one that is kept.  The messages carry nothing, so a channel
only counts them.
Main statement: a receiver is given nothing exactly if no message was sent since the last one that it was given, and
somebody is left who could send one.
-/

namespace QueryGateway.Lifecycle

/-- What a receiver is given. -/
inductive Reception where
  | message
  /-- A number of messages that are not kept any more. -/
  | lagged (missed : Nat)
  /-- There is no message, and nobody is left who could send one. -/
  | closed
  /-- There is no message yet. -/
  | nothing
  deriving DecidableEq, Repr

/-- A channel. -/
structure Broadcast where
  /-- How many messages are kept. -/
  room : Nat
  /-- How many messages were put into the channel. -/
  sent : Nat
  /-- Which of the senders exist, in the order of their making. -/
  senders : List Bool
  /-- For each receiver, in the order of their making, the number of the message that is next for it; none when the
  receiver is gone. -/
  receivers : List (Option Nat)
  deriving DecidableEq, Repr

namespace Broadcast

/-- A channel with one sender and no receiver. -/
def new (room : Nat) : Broadcast := ⟨room, 0, [true], []⟩

/-- Whether a sender exists. -/
def hasSender (channel : Broadcast) (sender : Nat) : Bool := channel.senders[sender]? = some true

/-- Whether any sender exists. -/
def isOpen (channel : Broadcast) : Bool := channel.senders.contains true

/-- How many receivers exist. -/
def receiverCount (channel : Broadcast) : Nat := channel.receivers.countP Option.isSome

/-- The number of the oldest message that is kept. -/
def oldest (channel : Broadcast) : Nat := channel.sent - channel.room

/-! ## Senders -/

/-- Makes another sender. -/
def cloneSender (channel : Broadcast) : Broadcast := { channel with senders := channel.senders ++ [true] }

/-- Gives up a sender. -/
def dropSender (channel : Broadcast) (sender : Nat) : Broadcast :=
  { channel with senders := channel.senders.set sender false }

/-- Puts a message into the channel; a message that nobody could receive is not kept. -/
def send (channel : Broadcast) : Broadcast :=
  if channel.receiverCount = 0 then channel else { channel with sent := channel.sent + 1 }

/-! ## Receivers -/

/-- Makes another receiver, for the messages from now on. -/
def subscribe (channel : Broadcast) : Broadcast :=
  { channel with receivers := channel.receivers ++ [some channel.sent] }

/-- Gives up a receiver. -/
def dropReceiver (channel : Broadcast) (receiver : Nat) : Broadcast :=
  { channel with receivers := channel.receivers.set receiver none }

/-- What a receiver is given for which a message is next. -/
def reception (channel : Broadcast) (next : Nat) : Reception :=
  if next < channel.oldest then .lagged (channel.oldest - next)
  else if next < channel.sent then .message
  else if channel.isOpen then .nothing
  else .closed

/-- The number of the message that is next for a receiver after what it is given. -/
def nextAfter (channel : Broadcast) (next : Nat) : Reception → Nat
  | .message => next + 1
  | .lagged _ => channel.oldest
  | .closed => next
  | .nothing => next

/-- What a receiver is given, and the channel afterwards, if the receiver exists. -/
def receive? (channel : Broadcast) (receiver : Nat) : Option (Reception × Broadcast) :=
  match channel.receivers[receiver]? with
  | some (some next) =>
    let given := channel.reception next
    some (given,
      { channel with receivers := channel.receivers.set receiver (some (channel.nextAfter next given)) })
  | _ => none

@[simp] theorem receivers_send (channel : Broadcast) : channel.send.receivers = channel.receivers := by
  unfold send
  split <;> rfl

@[simp] theorem senders_send (channel : Broadcast) : channel.send.senders = channel.senders := by
  unfold send
  split <;> rfl

theorem isOpen_iff {channel : Broadcast} : channel.isOpen = true ↔ ∃ sender, channel.hasSender sender = true := by
  simp only [isOpen, hasSender, List.contains_iff_mem, List.mem_iff_getElem?, decide_eq_true_eq]

theorem reception_eq_nothing_iff {channel : Broadcast} {next : Nat} :
    channel.reception next = .nothing ↔ channel.sent ≤ next ∧ channel.isOpen = true := by
  have kept : channel.oldest ≤ channel.sent := Nat.sub_le channel.sent channel.room
  unfold reception
  split
  · next behind =>
    refine ⟨nofun, fun waits => ?_⟩
    omega
  split
  · next behind =>
    refine ⟨nofun, fun waits => ?_⟩
    omega
  next reached =>
  split
  · next isOpen => exact ⟨fun _ => ⟨Nat.not_lt.mp reached, isOpen⟩, fun _ => rfl⟩
  · next closed => exact ⟨nofun, fun waits => absurd waits.2 closed⟩

/-- A receiver that is given nothing changes nothing. -/
theorem receive?_of_nothing {channel : Broadcast} {receiver next : Nat}
    (here : channel.receivers[receiver]? = some (some next)) (nothing : channel.reception next = .nothing) :
    channel.receive? receiver = some (.nothing, channel) := by
  obtain ⟨within, same⟩ := List.getElem?_eq_some_iff.mp here
  have unchanged : channel.receivers.set receiver (some next) = channel.receivers := by
    rw [← same]
    exact List.set_getElem_self within
  unfold receive?
  rw [here]
  dsimp only
  rw [nothing, nextAfter, unchanged]

end Broadcast

end QueryGateway.Lifecycle
