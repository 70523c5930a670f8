import Arbiter.Time.Duration
/-!
# Plans

What priority and what weight a rule should have, from how often it matched and how long it took.
The formulas are written for any kind of numbers.  The engine makes plans in doubles; in exact
fractions the same formulas say what the plans are about, apart from rounding.
-/

namespace Arbiter

/-- Numbers that plans are made in. -/
class PlanNumber (α : Type) extends Add α, Sub α, Mul α, Div α where
  /-- A whole number. -/
  whole : Nat → α
  /-- A time in nanoseconds, in seconds. -/
  seconds : Nat → α
  /-- Whether a number is less than another. -/
  below : α → α → Bool
  /-- The nearest whole number; halves go away from zero. -/
  nearest : α → Int

/-- Plans in doubles. -/
instance : PlanNumber Float where
  whole := Float.ofNat
  seconds := Duration.toSeconds
  below x y := x < y
  nearest := Decimal.roundAway

/-- Plans in fractions. -/
instance : PlanNumber Rat where
  whole n := (n : Rat)
  seconds ns := (ns : Rat) / (Duration.second : Rat)
  below x y := x < y
  nearest x := if x < 0 then -(-x + 1 / 2).floor else (x + 1 / 2).floor

namespace Plan

open PlanNumber

variable {α : Type} [PlanNumber α]

/-- The lesser of two numbers. -/
def least (x y : α) : α := if below x y then x else y

/-- The most that speed can count for. -/
def efficiencyLimit : α := whole 10

/-- How many evaluations of a given time fit into a second, up to a bound. -/
def efficiency (average : Nat) : α :=
  let secs : α := seconds average
  if below (whole 0) secs then least (whole 1 / secs) efficiencyLimit else efficiencyLimit

/-- The share of evaluations that matched. -/
def successRate (matched evaluations : Nat) : α := whole matched / whole evaluations

/-- The priority a rule should have: half of a hundred for success, and as much for each evaluation
that fits into a second. -/
def priority (success efficiency : α) : Int := nearest (success * whole 50 + efficiency * whole 50)

/-- The weight for the learned confidence that a rule should have: the less often the rule matches,
the more, and up to three tenths less for a fast one. -/
def weight (success efficiency : α) : α :=
  let speed := least (efficiency / whole 10) (whole 1)
  (whole 1 - success) * (whole 1 - speed * (whole 3 / whole 10))

end Plan

example : Plan.priority (1 / 2 : Rat) (Plan.efficiency 500000000) = 125 := by decide +kernel
example : Plan.weight (1 / 2 : Rat) (Plan.efficiency 500000000) = 47 / 100 := by decide +kernel
example : Plan.priority (0.5 : Float) (Plan.efficiency 500000000) = 125 := by decide +kernel

end Arbiter
