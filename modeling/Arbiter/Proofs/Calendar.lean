import Arbiter.Time.Timestamp
import Mathlib.Tactic.IntervalCases
/-!
# Days and dates

The date of a day is computed from divisions that are each a little off, so that they make up for each other.
That the result is right is not to be seen from any one of them.

1. **Years** (`yearInEra_bounds`).  A day of an era of four hundred years belongs to the year that the
   divisions give: it is not before the start of that year, and before the start of the next.  The centuries
   are taken one by one; within a century only whole days and leap days are left to count.
2. **Months** (`monthStart_bounds`).  The same for the months of a year that begins in March.
3. **Dates.**  The date of a day is a date of the calendar (`dateOf_valid`), it is that of this day
   (`dayOf_dateOf`), and the days that can be held have years that can be written (`dateOf_year`).
-/

namespace Arbiter.Timestamp

/-! ## Years -/

/-- The year of an era that a day of it belongs to. -/
def yearInEra (inEra : Nat) : Nat := (inEra - inEra / 1460 + inEra / 36524 - inEra / 146096) / 365

/-- The day of an era on which a year of it starts. -/
def yearStart (year : Nat) : Nat := 365 * year + year / 4 - year / 100 + year / 400

/-- A day of an era belongs to the year that the divisions give. -/
theorem yearInEra_bounds {inEra : Nat} (h : inEra < 146097) :
    yearInEra inEra < 400 ∧ yearStart (yearInEra inEra) ≤ inEra
      ∧ inEra < yearStart (yearInEra inEra + 1) := by
  obtain ⟨century, hcentury⟩ : ∃ c, inEra / 36524 = c := ⟨_, rfl⟩
  obtain ⟨last, hlast⟩ : ∃ l, inEra / 146096 = l := ⟨_, rfl⟩
  have hcenturies : century ≤ 4 := by omega
  have hlastDay : last ≤ 1 := by omega
  rw [yearInEra, hcentury, hlast]
  generalize hyear : (inEra - inEra / 1460 + century - last) / 365 = year
  -- the last day of the era is in its last year, though it starts a century by the count
  have hyearOfCentury : year / 100 = century - last := by
    interval_cases century <;> interval_cases last <;> omega
  have hyears : year < 400 := by omega
  have hleap : year / 400 = 0 := by omega
  refine ⟨hyears, ?before, ?next⟩
  case before =>
    rw [yearStart, hyearOfCentury, hleap]
    interval_cases century <;> interval_cases last <;> omega
  case next =>
    rw [yearStart]
    rcases Nat.lt_or_ge (year + 1) (100 * (century - last + 1)) with hwithin | hturn
    · have hsame : (year + 1) / 100 = century - last := by omega
      have hera : (year + 1) / 400 = 0 := by omega
      rw [hsame, hera]
      interval_cases century <;> interval_cases last <;> omega
    · have hnext : year + 1 = 100 * (century - last + 1) := by omega
      rw [hnext]
      interval_cases century <;> interval_cases last <;> omega

/-! ## Months -/

/-- A day of a year that begins in March belongs to the month that the division gives. -/
theorem monthStart_bounds {dayOfYear : Nat} (h : dayOfYear ≤ 365) :
    (5 * dayOfYear + 2) / 153 ≤ 11 ∧ monthStart ((5 * dayOfYear + 2) / 153) ≤ dayOfYear
      ∧ dayOfYear < monthStart ((5 * dayOfYear + 2) / 153 + 1) := by
  rw [monthStart, monthStart]
  omega

/-- The length of a month other than February is the distance from its start to that of the next. -/
theorem daysIn_eq (year : Int) {fromMarch : Nat} (h : fromMarch < 11) :
    daysIn year (if fromMarch < 10 then fromMarch + 3 else fromMarch - 9)
      = monthStart (fromMarch + 1) - monthStart fromMarch := by
  interval_cases fromMarch <;> rfl

/-- No year has more than 366 days, and the last of them is there in leap years only. -/
theorem yearStart_succ {year : Nat} (h : year < 400) : yearStart (year + 1) = yearStart year + 365
    + (if isLeap (year + 1) then 1 else 0) := by
  have hleap : isLeap (year + 1) = true ↔
      (year + 1) % 4 = 0 ∧ ((year + 1) % 100 ≠ 0 ∨ (year + 1) % 400 = 0) := by
    simp only [isLeap, Bool.and_eq_true, Bool.or_eq_true, beq_iff_eq, bne_iff_ne]
    omega
  rw [yearStart, yearStart]
  by_cases hyes : isLeap (year + 1) = true
  · have hturn := hleap.1 hyes
    rw [if_pos hyes]
    omega
  · have hturn := mt hleap.2 hyes
    rw [if_neg hyes]
    omega

/-! ## Dates -/

/-- How the date of a day comes about: the day is one of a month of a year of an era. -/
theorem dateOf_cases (day : Int) : ∃ (era : Int) (year dayOfYear fromMarch : Nat),
    day + epochOffset = 146097 * era + (yearStart year + dayOfYear : Nat)
    ∧ year < 400 ∧ yearStart year + dayOfYear < yearStart (year + 1)
    ∧ fromMarch ≤ 11 ∧ monthStart fromMarch ≤ dayOfYear ∧ dayOfYear < monthStart (fromMarch + 1)
    ∧ dateOf day = (era * 400 + year + (if fromMarch < 10 then 0 else 1),
        if fromMarch < 10 then fromMarch + 3 else fromMarch - 9, dayOfYear - monthStart fromMarch + 1) := by
  obtain ⟨era, hera⟩ : ∃ era, (day + epochOffset).fdiv 146097 = era := ⟨_, rfl⟩
  obtain ⟨inEra, hinEra⟩ : ∃ n, (day + epochOffset - era * 146097).toNat = n := ⟨_, rfl⟩
  rw [Int.fdiv_eq_ediv_of_nonneg _ (by omega)] at hera
  have hpart : day + epochOffset = 146097 * era + inEra := by omega
  have hlt : inEra < 146097 := by omega
  obtain ⟨hyears, hstart, hnext⟩ := yearInEra_bounds hlt
  generalize hyear : yearInEra inEra = year at hyears hstart hnext
  obtain ⟨dayOfYear, rfl⟩ : ∃ n, inEra = yearStart year + n := ⟨inEra - yearStart year, by omega⟩
  have hlong := yearStart_succ hyears
  have hdays : dayOfYear ≤ 365 := by
    split at hlong <;> omega
  obtain ⟨hmonths, hfirst, hlast⟩ := monthStart_bounds hdays
  refine ⟨era, year, dayOfYear, _, hpart, hyears, hnext, hmonths, hfirst, hlast, ?_⟩
  have hyearStart : 365 * year + year / 4 - year / 100 = yearStart year := by
    rw [yearStart]
    omega
  have hof : yearStart year + dayOfYear - yearStart year = dayOfYear := by omega
  have hcalc := hyear
  rw [yearInEra] at hcalc
  rw [dateOf]
  rw [Int.fdiv_eq_ediv_of_nonneg _ (by omega), hera, hinEra, hcalc, hyearStart, hof]
  generalize (5 * dayOfYear + 2) / 153 = fromMarch at hmonths
  rcases Nat.lt_or_ge fromMarch 10 with hbefore | hafter
  · have hmarch : ¬ fromMarch + 3 ≤ 2 := by omega
    rw [if_pos hbefore, if_pos hbefore, if_neg hmarch]
  · have hjanuary : ¬ fromMarch < 10 := by omega
    have hmonth : fromMarch - 9 ≤ 2 := by omega
    rw [if_neg hjanuary, if_neg hjanuary, if_pos hmonth]

/-- **The date of a day is that of this day.** -/
theorem dayOf_dateOf (day : Int) :
    dayOf (dateOf day).1 (dateOf day).2.1 (dateOf day).2.2 = day := by
  obtain ⟨era, year, dayOfYear, fromMarch, hday, hyears, -, hmonths, hfirst, -, hdate⟩ := dateOf_cases day
  rw [hdate, dayOf]
  dsimp only
  have hmarch : ((if fromMarch < 10 then fromMarch + 3 else fromMarch - 9) + 9) % 12 = fromMarch := by
    split <;> omega
  have hyear : (if (if fromMarch < 10 then fromMarch + 3 else fromMarch - 9) ≤ 2
      then era * 400 + year + (if fromMarch < 10 then 0 else 1) - 1
      else era * 400 + year + (if fromMarch < 10 then 0 else 1)) = era * 400 + year := by
    rcases Nat.lt_or_ge fromMarch 10 with hbefore | hafter
    · have hlate : ¬ fromMarch + 3 ≤ 2 := by omega
      rw [if_pos hbefore, if_pos hbefore, if_neg hlate]
      omega
    · have hjanuary : ¬ fromMarch < 10 := by omega
      have hearly : fromMarch - 9 ≤ 2 := by omega
      rw [if_neg hjanuary, if_neg hjanuary, if_pos hearly]
      omega
  have hcount : daysToMarch (era * 400 + year) = 146097 * era + yearStart year := by
    rw [daysToMarch, yearStart, Int.fdiv_eq_ediv_of_nonneg _ (by omega),
      Int.fdiv_eq_ediv_of_nonneg _ (by omega), Int.fdiv_eq_ediv_of_nonneg _ (by omega)]
    omega
  rw [hmarch, hyear, hcount]
  omega

/-- **The date of a day is one of the calendar.** -/
theorem dateOf_valid (day : Int) : 1 ≤ (dateOf day).2.1 ∧ (dateOf day).2.1 ≤ 12
    ∧ 1 ≤ (dateOf day).2.2 ∧ (dateOf day).2.2 ≤ daysIn (dateOf day).1 (dateOf day).2.1 := by
  obtain ⟨era, year, dayOfYear, fromMarch, -, hyears, hnext, hmonths, hfirst, hlast, hdate⟩ :=
    dateOf_cases day
  rw [hdate]
  dsimp only
  have hlong := yearStart_succ hyears
  have hleap : isLeap (era * 400 + year + 1) = isLeap (year + 1) := by
    have hfour : (era * 400 + year + 1) % 4 = ((year : Int) + 1) % 4 := by omega
    have hhundred : (era * 400 + year + 1) % 100 = ((year : Int) + 1) % 100 := by omega
    have hera : (era * 400 + year + 1) % 400 = ((year : Int) + 1) % 400 := by omega
    rw [isLeap, isLeap, hfour, hhundred, hera]
  -- only the length of February depends on the year
  have hfebruary : fromMarch = 11 → dayOfYear - monthStart 11 + 1
      ≤ if isLeap (era * 400 + year + 1) then 29 else 28 := by
    rintro rfl
    have hstart : monthStart 11 = 337 := rfl
    rw [hstart] at hfirst ⊢
    rw [hleap]
    split at hlong <;> split <;> omega
  have hmonth : 1 ≤ (if fromMarch < 10 then fromMarch + 3 else fromMarch - 9)
      ∧ (if fromMarch < 10 then fromMarch + 3 else fromMarch - 9) ≤ 12 := by
    split <;> omega
  refine ⟨hmonth.1, hmonth.2, by omega, ?_⟩
  rcases Nat.lt_or_ge fromMarch 11 with hother | hnone
  · rw [daysIn_eq _ hother]
    omega
  · obtain rfl : fromMarch = 11 := by omega
    exact hfebruary rfl

/-- The days that can be held are those of certain years. -/
theorem dateOf_year {day : Int} (hfirst : firstDay ≤ day) (hlast : day ≤ lastDay) :
    -262143 ≤ (dateOf day).1 ∧ (dateOf day).1 ≤ 262142 := by
  obtain ⟨era, year, dayOfYear, fromMarch, hday, hyears, hnext, hmonths, hfrom, hto, hdate⟩ :=
    dateOf_cases day
  have hfirstDay : firstDay = -96465292 := by decide
  have hlastDay : lastDay = 95026236 := by decide
  rw [hfirstDay] at hfirst
  rw [hlastDay] at hlast
  rw [hdate]
  dsimp only
  have hlong := yearStart_succ hyears
  have hdays : dayOfYear ≤ 365 := by
    split at hlong <;> omega
  clear hlong hnext
  have hoffset : epochOffset = 719468 := rfl
  rw [hoffset] at hday
  rw [yearStart] at hday
  have hera : -656 ≤ era ∧ era ≤ 655 := by omega
  -- what can be held begins and ends at the turn of a year, when ten months since March are over
  have hmonth : fromMarch < 10 ↔ dayOfYear < 306 := by
    rw [monthStart] at hfrom hto
    omega
  have hstart : era = -656 → 256 ≤ year ∧ (year = 256 → ¬ fromMarch < 10) := by omega
  have hend : era = 655 → year ≤ 142 ∧ (year = 142 → fromMarch < 10) := by omega
  split <;> omega

end Arbiter.Timestamp
