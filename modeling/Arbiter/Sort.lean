/-!
# Sorting

Insertion sort by a comparison.  Items that are as good as each other keep their order.
-/

namespace Arbiter

/-- Puts an item before the first one it may come before. -/
def insertBy (le : α → α → Bool) (x : α) : List α → List α
  | [] => [x]
  | y :: ys => if le x y then x :: y :: ys else y :: insertBy le x ys

/-- A list in order. -/
def sortBy (le : α → α → Bool) : List α → List α
  | [] => []
  | x :: xs => insertBy le x (sortBy le xs)

example : sortBy (fun (a b : Nat × Nat) => a.1 ≤ b.1) [(2, 0), (1, 1), (2, 2)] =
    [(1, 1), (2, 0), (2, 2)] := by decide

end Arbiter
