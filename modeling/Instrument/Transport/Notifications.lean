/-
# Notifications

Messages that an instrument sends of its own accord.  The last of them are kept, up to a fixed number;
a subscriber that comes late learns how many it has missed and goes on with the oldest that is kept.
-/
import Instrument.Json.Basic

namespace Instrument

/-- The messages so far: how many there were before those that are kept, and these. -/
structure Notifications where
  dropped : Nat
  kept : List Json
  deriving Repr

/-- How many messages a subscriber has seen. -/
structure Subscription where
  seen : Nat
  deriving DecidableEq, Repr

namespace Notifications

/-- The number of messages that are kept. -/
def capacity : Nat := 64

/-- No messages. -/
def none : Notifications := ⟨0, []⟩

/-- The number of all messages. -/
def total (n : Notifications) : Nat := n.dropped + n.kept.length

/-- Adds a message; the oldest gives way if there are too many. -/
def publish (n : Notifications) (message : Json) : Notifications :=
  let kept := n.kept ++ [message]
  if capacity < kept.length then ⟨n.dropped + 1, kept.drop 1⟩ else ⟨n.dropped, kept⟩

/-- Adds messages. -/
def publishAll (n : Notifications) (messages : List Json) : Notifications :=
  messages.foldl publish n

/-- Subscribes to the messages that are still to come. -/
def subscribe (n : Notifications) : Subscription := ⟨n.total⟩

/-- The messages that a subscriber has not seen, after the number of those it has missed. -/
def receive (n : Notifications) (s : Subscription) : Nat × List Json × Subscription :=
  (n.dropped - s.seen, n.kept.drop (s.seen - n.dropped), ⟨n.total⟩)

end Notifications

end Instrument
