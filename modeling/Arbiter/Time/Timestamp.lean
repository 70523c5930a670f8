import Arbiter.Text.Blank
import Arbiter.Text.Numeral
/-!
# Timestamps

A moment in universal time, to the nanosecond.  A leap second is the last second of its minute with
more than a whole second of nanoseconds.  Texts follow the Internet date format; reading is lenient
about blanks, about missing leading zeros and about the letters in it.
-/

namespace Arbiter

/-- A moment in universal time. -/
structure Timestamp where
  /-- Days since the first of January 1970. -/
  day : Int
  /-- Seconds since midnight. -/
  second : Nat
  /-- Nanoseconds; a thousand million or more within a leap second. -/
  nano : Nat
deriving DecidableEq, Repr

namespace Timestamp

/-- The first moment of the year 1970. -/
def epoch : Timestamp := ⟨0, 0, 0⟩

/-- Days from the first of March of the year 0 to that date of another year. -/
def daysToMarch (year : Int) : Int := 365 * year + year.fdiv 4 - year.fdiv 100 + year.fdiv 400

/-- Days from the first of March to the first of each month of the year that starts there. -/
def monthStart (monthFromMarch : Nat) : Nat := (153 * monthFromMarch + 2) / 5

/-- The days from the first of March of the year 0 to the first of January 1970. -/
def epochOffset : Int := 719468

/-- The day of a date. -/
def dayOf (year : Int) (month day : Nat) : Int :=
  let fromMarch := (month + 9) % 12
  let year := if month ≤ 2 then year - 1 else year
  daysToMarch year + monthStart fromMarch + (day - 1 : Nat) - epochOffset

/-- The date of a day: year, month and day of the month. -/
def dateOf (day : Int) : Int × Nat × Nat :=
  let z := day + epochOffset
  let era := z.fdiv 146097
  let inEra := (z - era * 146097).toNat
  let yearOfEra := (inEra - inEra / 1460 + inEra / 36524 - inEra / 146096) / 365
  let dayOfYear := inEra - (365 * yearOfEra + yearOfEra / 4 - yearOfEra / 100)
  let fromMarch := (5 * dayOfYear + 2) / 153
  let month := if fromMarch < 10 then fromMarch + 3 else fromMarch - 9
  let year := era * 400 + yearOfEra + (if month ≤ 2 then 1 else 0)
  (year, month, dayOfYear - monthStart fromMarch + 1)

/-- Whether a year has a twenty-ninth of February. -/
def isLeap (year : Int) : Bool := year % 4 == 0 && (year % 100 != 0 || year % 400 == 0)

/-- The number of days of a month. -/
def daysIn (year : Int) (month : Nat) : Nat :=
  if month = 2 then (if isLeap year then 29 else 28)
  else if month = 4 ∨ month = 6 ∨ month = 9 ∨ month = 11 then 30
  else 31

/-- The first day that can be held. -/
def firstDay : Int := dayOf (-262143) 1 1

/-- The last day that can be held. -/
def lastDay : Int := dayOf 262142 12 31

/-- The fraction of a second: nothing, or three, six or nine digits. -/
def fractionText (nano : Nat) : String :=
  if nano = 0 then ""
  else if nano % 1000000 = 0 then "." ++ Numeral.padded 3 (nano / 1000000)
  else if nano % 1000 = 0 then "." ++ Numeral.padded 6 (nano / 1000)
  else "." ++ Numeral.padded 9 nano

/-- The text of a year: four digits, with a sign when they are not enough. -/
def yearText (year : Int) : String :=
  if 0 ≤ year ∧ year ≤ 9999 then Numeral.padded 4 year.toNat
  else (if year < 0 then "-" else "+") ++ Numeral.padded 4 year.natAbs

/-- The text of a moment. -/
def text (t : Timestamp) : String :=
  let (year, month, day) := dateOf t.day
  let leap := t.nano / 1000000000
  let two := Numeral.padded 2
  yearText year ++ "-" ++ two month ++ "-" ++ two day ++ "T" ++ two (t.second / 3600) ++ ":"
    ++ two (t.second / 60 % 60) ++ ":" ++ two (t.second % 60 + leap)
    ++ fractionText (t.nano % 1000000000) ++ "Z"

/-! ## Reading -/

/-- Skips blanks. -/
def skipBlanks (cs : List Char) : List Char := cs.dropWhile Text.isBlank

/-- One to `width` digits. -/
def number? (width : Nat) (cs : List Char) : Option (Nat × List Char) :=
  let ds := (cs.take width).takeWhile Char.isDigit
  if ds.isEmpty then none
  else (Numeral.digits? 10 ds).map fun n => (n, cs.drop ds.length)

/-- A field of one to `width` digits after blanks. -/
def field? (width : Nat) (cs : List Char) : Option (Nat × List Char) :=
  number? width (skipBlanks cs)

/-- A year: up to four digits, or any number of them after a sign. -/
def year? (cs : List Char) : Option (Int × List Char) :=
  match skipBlanks cs with
  | '-' :: rest => (number? rest.length rest).map fun (n, rest) => (-(n : Int), rest)
  | '+' :: rest => (number? rest.length rest).map fun (n, rest) => ((n : Int), rest)
  | rest => (number? 4 rest).map fun (n, rest) => ((n : Int), rest)

/-- A mark between fields, after blanks. -/
def mark? (c : Char) (cs : List Char) : Option (List Char) :=
  match skipBlanks cs with
  | d :: rest => if c = d then some rest else none
  | [] => none

/-- The fraction of a second in nanoseconds; digits beyond the ninth are dropped. -/
def fraction? : List Char → Option (Nat × List Char)
  | '.' :: cs => do
    let (n, rest) ← number? 9 cs
    let used := cs.length - rest.length
    return (n * Nat.pow 10 (9 - used), rest.dropWhile Char.isDigit)
  | cs => some (0, cs)

/-- The separator between hours and minutes of an offset: colons and blanks, or nothing. -/
def skipColons (cs : List Char) : List Char :=
  cs.dropWhile fun c => c == ':' || Text.isBlank c

/-- A field of exactly two digits, both given by their characters. -/
def twoDigits? : List Char → Option (Nat × List Char)
  | a :: b :: rest => (Numeral.digits? 10 [a, b]).map fun n => (n, rest)
  | _ => none

/-- A signed distance from universal time, in seconds. -/
def distance? (cs : List Char) : Option (Int × List Char) := do
  let (negative, rest) ← match cs with
    | '+' :: rest => some (false, rest)
    | '-' :: rest => some (true, rest)
    | '−' :: rest => some (true, rest)
    | _ => none
  let (hours, rest) ← twoDigits? rest
  let (minutes, rest) ← twoDigits? (skipColons rest)
  if minutes < 60 then
    let n : Int := hours * 3600 + minutes * 60
    return (if negative then -n else n, rest)
  else none

/-- The zone of a text: a letter, a name, or a distance. -/
def offset? (cs : List Char) : Option (Int × List Char) :=
  match skipBlanks cs with
  | u :: t :: c :: rest =>
    if u.toUpper = 'U' ∧ t.toUpper = 'T' ∧ c.toUpper = 'C' then some (0, rest)
    else if u = 'Z' ∨ u = 'z' then some (0, t :: c :: rest)
    else distance? (u :: t :: c :: rest)
  | u :: rest => if u = 'Z' ∨ u = 'z' then some (0, rest) else none
  | [] => none

/-- A moment from fields that were read, if they name one. -/
def make? (year : Int) (month day hour minute second nano : Nat) (offset : Int) :
    Option Timestamp := do
  guard (-262143 ≤ year ∧ year ≤ 262142)
  guard (1 ≤ month ∧ month ≤ 12 ∧ 1 ≤ day ∧ day ≤ daysIn year month)
  guard (hour ≤ 23 ∧ minute ≤ 59 ∧ second ≤ 60)
  guard (-86400 < offset ∧ offset < 86400)
  let (second, nano) := if second = 60 then (59, nano + 1000000000) else (second, nano)
  let total : Int := (hour * 3600 + minute * 60 + second : Nat) - offset
  let day := dayOf year month day + total.fdiv 86400
  guard (firstDay ≤ day ∧ day ≤ lastDay)
  return ⟨day, (total.fmod 86400).toNat, nano⟩

/-- Reads a moment.  Blanks may stand before every field, the date and the time are parted by a
letter or a blank, and the zone is required. -/
def read? (text : String) : Option Timestamp := do
  let (year, rest) ← year? text.toList
  let (month, rest) ← field? 2 (← mark? '-' rest)
  let (day, rest) ← field? 2 (← mark? '-' rest)
  let rest ← match rest with
    | c :: rest => if c = 'T' ∨ c = 't' ∨ c = ' ' then some rest else none
    | [] => none
  let (hour, rest) ← field? 2 rest
  let (minute, rest) ← field? 2 (← mark? ':' rest)
  let (second, rest) ← field? 2 (← mark? ':' rest)
  let (nano, rest) ← fraction? rest
  let (offset, rest) ← offset? rest
  guard (skipBlanks rest).isEmpty
  make? year month day hour minute second nano offset

example : (read? "2020-02-29T23:59:60Z").map text = some "2020-02-29T23:59:60Z" := by decide +kernel
example : (read? "2020-01-01T01:30:00.5+01:00").map text = some "2020-01-01T00:30:00.500Z" := by
  decide +kernel

end Timestamp

end Arbiter
