/-!
# Bounded history

A ring holds the latest items, at least one, and lets go of the oldest when it is full.
-/

namespace Arbiter

/-- The latest items, oldest first. -/
structure Ring (α : Type) where
  /-- How many items are held at most. -/
  capacity : Nat
  /-- The items. -/
  items : List α := []
deriving Repr

namespace Ring

/-- An empty ring; one of capacity zero still holds the latest item. -/
def ofCapacity (capacity : Nat) : Ring α := { capacity := max capacity 1 }

/-- Adds an item. -/
def push (r : Ring α) (x : α) : Ring α :=
  { r with items := (if r.items.length = r.capacity then r.items.tail else r.items) ++ [x] }

/-- Adds several items, one after the other. -/
def extend (r : Ring α) (xs : List α) : Ring α := xs.foldl push r

/-- Lets go of all items. -/
def clear (r : Ring α) : Ring α := { r with items := [] }

/-- How many items there are. -/
def size (r : Ring α) : Nat := r.items.length

/-- The latest item. -/
def newest? (r : Ring α) : Option α := r.items.getLast?

end Ring

end Arbiter
