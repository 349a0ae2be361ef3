/-!
# Broadcast channels

A message goes to all who listen at the time. The channel keeps the latest messages only; a
receiver that falls behind is told how many it missed and goes on with the oldest one kept. While
nobody listens nothing is kept.
-/
namespace Outbox

/-- The channel: its capacity, the number of receivers, the number of messages sent so far, and
the latest of them, oldest first. -/
structure Channel (α : Type) where
  capacity : Nat
  receivers : Nat
  sent : Nat
  recent : List α
  deriving Repr

/-- What a receiver gets. -/
inductive Received (α : Type) where
  | message (x : α)
  | lagged (missed : Nat)
  deriving DecidableEq, Repr

namespace Channel

variable {α : Type}

/-- The largest capacity that a channel can be asked for. -/
def largestCapacity : Nat := UInt64.size / 2 - 1

/-- A channel for at least one message; the capacity is rounded up to a power of two. -/
def ofCapacity (capacity : Nat) : Channel α := ⟨(max 1 capacity).nextPowerOfTwo, 0, 0, []⟩

/-- A new receiver, which gets what is sent from now on. Its position is a message number. -/
def subscribe (c : Channel α) : Channel α × Nat := ({ c with receivers := c.receivers + 1 }, c.sent)

/-- A receiver goes away. -/
def unsubscribe (c : Channel α) : Channel α := { c with receivers := c.receivers - 1 }

/-- Sends a message to the receivers, if there are any. -/
def send (c : Channel α) (x : α) : Channel α :=
  if c.receivers = 0 then c
  else
    let all := c.recent ++ [x]
    { c with sent := c.sent + 1, recent := all.drop (all.length - c.capacity) }

/-- All that waits for the receiver at a position. Afterwards it stands at the end. -/
def receive (c : Channel α) (position : Nat) : List (Received α) :=
  let oldest := c.sent - c.recent.length
  let missed := oldest - position
  let waiting := (c.recent.drop (position - oldest)).map .message
  if missed = 0 then waiting else .lagged missed :: waiting

end Channel

end Outbox
