/-!
# Event queues

Every subscriber has a queue of its own.  A queue holds so many events; one that is not emptied loses
its oldest ones, and the subscriber is told how many.
-/

namespace Arbiter

/-- The queue of one subscriber. -/
structure Queue (α : Type) where
  /-- How many events were lost since the queue was last emptied. -/
  lost : Nat := 0
  /-- The events, oldest first. -/
  events : List α := []

/-- A bus with its subscribers, oldest first. -/
structure Bus (α : Type) where
  /-- How many events a queue holds. -/
  capacity : Nat
  /-- The queues. -/
  queues : List (Queue α) := []

/-- The least power of two that is not below a number, found by doubling at most `fuel` times. -/
def powerOfTwoFrom (n : Nat) : Nat → Nat → Nat
  | 0, p => p
  | fuel + 1, p => if n ≤ p then p else powerOfTwoFrom n fuel (2 * p)

/-- What a subscriber reads. -/
inductive Delivery (α : Type) where
  /-- So many events were lost. -/
  | lagged (n : Nat)
  /-- An event. -/
  | event (e : α)

namespace Bus

/-- A bus without subscribers; the capacity is at least one and rounded up to a power of two. -/
def ofCapacity (capacity : Nat) : Bus α := { capacity := powerOfTwoFrom (max capacity 1) 64 1 }

/-- Adds an event to a queue. -/
def enqueue (capacity : Nat) (e : α) (q : Queue α) : Queue α :=
  let events := q.events ++ [e]
  if capacity < events.length then ⟨q.lost + 1, events.tail⟩ else { q with events }

/-- Sends an event to all subscribers. -/
def emit (b : Bus α) (e : α) : Bus α := { b with queues := b.queues.map (enqueue b.capacity e) }

/-- Sends several events, one after the other. -/
def emitAll (b : Bus α) (es : List α) : Bus α := es.foldl emit b

/-- Adds a subscriber. -/
def subscribe (b : Bus α) : Bus α := { b with queues := b.queues ++ [{}] }

/-- Drops the newest subscriber, if there is one. -/
def dropNewest (b : Bus α) : Bus α := { b with queues := b.queues.dropLast }

/-- What a queue has to be read. -/
def deliveries (q : Queue α) : List (Delivery α) :=
  (if q.lost = 0 then [] else [.lagged q.lost]) ++ q.events.map .event

/-- Empties all queues; the answer has what each subscriber reads. -/
def drain (b : Bus α) : List (List (Delivery α)) × Bus α :=
  (b.queues.map deliveries, { b with queues := b.queues.map fun _ => {} })

end Bus

end Arbiter
