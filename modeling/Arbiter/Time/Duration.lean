import Arbiter.Decimal.Shortest
import Arbiter.Text.Numeral
/-!
# Durations

Lengths of time are whole numbers of nanoseconds.  Outside they appear either as milliseconds in a
double, or as a short text in the largest unit that keeps the whole part above zero.
-/

namespace Arbiter

/-- Rounds a finite double to the nearest whole number, halves away from zero. -/
def Decimal.roundAway (x : Float) : Int :=
  let d := Dyadic.ofBits x.toBits
  let size : Nat :=
    if d.exponent ≥ 0 then d.mantissa * Nat.pow 2 d.exponent.toNat
    else
      let unit := Nat.pow 2 (-d.exponent).toNat
      (2 * d.mantissa + unit) / (2 * unit)
  if isNegative x then -(size : Int) else size

/-- Cuts the fraction of a finite double off. -/
def Decimal.truncate (x : Float) : Int :=
  let d := Dyadic.ofBits x.toBits
  let size : Nat :=
    if d.exponent ≥ 0 then d.mantissa * Nat.pow 2 d.exponent.toNat else d.mantissa / Nat.pow 2 (-d.exponent).toNat
  if isNegative x then -(size : Int) else size

/-- The nearest whole number of sixty-four bits: what is not a number is zero, and what is out of
range is the nearest end of the range. -/
def Decimal.toWord (round : Float → Int) (x : Float) : Nat :=
  if x.isNaN then 0
  else if x.isInf then (if x > 0.0 then Numeral.maxWord else 0)
  else min (round x).toNat Numeral.maxWord

namespace Duration

/-- Nanoseconds in a millisecond. -/
def millisecond : Nat := 1000000

/-- Nanoseconds in a second. -/
def second : Nat := 1000000000

/-- A number of milliseconds. -/
def ofMillis (ms : Nat) : Nat := ms * millisecond

/-- The duration in milliseconds, as a double. -/
def toMillis (ns : Nat) : Float := Float.ofNat ns / 1000000.0

/-- The duration of a number of milliseconds in a double; what is negative counts as none. -/
def ofMillisFloat (ms : Float) : Nat :=
  let ms := if ms > 0.0 then ms else 0.0
  Decimal.toWord Decimal.roundAway (ms * 1000000.0)

/-- The duration in seconds, as a double. -/
def toSeconds (ns : Nat) : Float :=
  Float.ofNat (ns / second) + Float.ofNat (ns % second) / 1000000000.0

/-- A duration in one unit: the whole part, and what is left without zeros at the end. -/
def inUnit (ns unit : Nat) (digits : Nat) (name : String) : String :=
  let part := (Numeral.padded digits (ns % unit)).toList.reverse.dropWhile (· == '0')
  let part := if ns % unit = 0 then [] else '.' :: part.reverse
  toString (ns / unit) ++ String.ofList part ++ name

/-- The text of a duration in the largest unit that fits. -/
def text (ns : Nat) : String :=
  if ns ≥ second then inUnit ns second 9 "s"
  else if ns ≥ millisecond then inUnit ns millisecond 6 "ms"
  else if ns ≥ 1000 then inUnit ns 1000 3 "µs"
  else toString ns ++ "ns"

example : text 4999000000 = "4.999s" := by decide +kernel
example : text 0 = "0ns" := by decide +kernel

end Duration

end Arbiter
