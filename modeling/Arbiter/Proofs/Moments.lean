import Arbiter.Proofs.Calendar
import Mathlib.Data.Option.Basic
/-!
# Moments and their texts

A rule set holds the moments at which its rules were changed, and a file has them as texts.  No moment is lost
or moved on the way.

1. **Numbers.**  A number that is written with any number of digits is read back, up to the first character
   that is no digit (`number?_padded`).
2. **Moments** that can be held are those of days that can be written, with a leap second only at the end of a
   minute (`Timestamp.Valid`).  Whatever is read is one of them (`valid_of_read?`): a distance from universal
   time is a whole number of minutes, and so moves no leap second off the end of its minute.
3. **The text of a moment** is read as this moment (`read?_text`).
-/

namespace Arbiter

/-! ## Numbers -/

namespace Numeral

/-- A decimal digit is read as its distance from the character of nought. -/
theorem digit?_of_isDigit {c : Char} (h : c.isDigit = true) : digit? 10 c = some (c.toNat - 48) := by
  have hrange : 48 ≤ c.toNat ∧ c.toNat ≤ 57 := Char.isDigit_iff_toNat.1 h
  have hdigit : digitValue? c = some (c.toNat - 48) := by
    have hbetween : '0' ≤ c ∧ c ≤ '9' := hrange
    rw [digitValue?, if_pos hbetween]
  have hsmall : c.toNat - 48 < 10 := by omega
  simp [digit?, hdigit, hsmall]

/-- Digits are read behind a number as decimals are. -/
theorem extend?_of_isDigit {cs : List Char} (h : ∀ c ∈ cs, c.isDigit = true) (n : Nat) :
    extend? 10 n cs = some (Nat.ofDigitChars 10 cs n) := by
  induction cs generalizing n with
  | nil => simp [extend?]
  | cons c rest ih =>
    obtain ⟨hc, hrest⟩ := List.forall_mem_cons.1 h
    have hvalue : n * 10 + (c.toNat - 48) = 10 * n + (c.toNat - '0'.toNat) := by
      rw [Nat.mul_comm]
      rfl
    rw [extend?, digit?_of_isDigit hc, Nat.ofDigitChars_cons, ← hvalue]
    exact ih hrest _

/-- A row of digits is read as the number it stands for. -/
theorem digits?_of_isDigit {cs : List Char} (h : ∀ c ∈ cs, c.isDigit = true) (hne : cs ≠ []) :
    digits? 10 cs = some (Nat.ofDigitChars 10 cs 0) := by
  cases cs with
  | nil => exact absurd rfl hne
  | cons c rest => exact extend?_of_isDigit h 0

/-- A number has no more digits than it was read from. -/
theorem ofDigitChars_lt {cs : List Char} (h : ∀ c ∈ cs, c.isDigit = true) :
    Nat.ofDigitChars 10 cs 0 < 10 ^ cs.length := by
  induction cs with
  | nil => simp
  | cons c rest ih =>
    obtain ⟨hc, hrest⟩ := List.forall_mem_cons.1 h
    have hdigit : c.toNat - '0'.toNat ≤ 9 := by
      have hrange : 48 ≤ c.toNat ∧ c.toNat ≤ 57 := Char.isDigit_iff_toNat.1 hc
      have hzero : '0'.toNat = 48 := rfl
      omega
    have htail := ih hrest
    rw [Nat.ofDigitChars_cons, Nat.ofDigitChars_eq_ofDigitChars_zero, List.length_cons, Nat.pow_succ,
      Nat.mul_zero, Nat.zero_add]
    have hhead : 10 ^ rest.length * (c.toNat - '0'.toNat) ≤ 10 ^ rest.length * 9 :=
      Nat.mul_le_mul_left _ hdigit
    omega

variable (width n : Nat)

theorem toList_padded : (padded width n).toList
    = List.replicate (width - (Nat.toDigits 10 n).length) '0' ++ Nat.toDigits 10 n := by
  rw [padded, String.toList_ofList]

/-- A padded number has nothing but digits. -/
theorem isDigit_of_mem_padded {c : Char} (h : c ∈ (padded width n).toList) : c.isDigit = true := by
  rw [toList_padded, List.mem_append] at h
  rcases h with hzero | hdigit
  · rw [List.eq_of_mem_replicate hzero]
    rfl
  · exact Nat.isDigit_of_mem_toDigits (by decide) (by decide) hdigit

theorem padded_ne_nil : (padded width n).toList ≠ [] := by
  rw [toList_padded]
  exact List.append_ne_nil_of_right_ne_nil _ Nat.toDigits_ne_nil

/-- The noughts in front do not change what it is read as. -/
theorem ofDigitChars_padded : Nat.ofDigitChars 10 (padded width n).toList 0 = n := by
  rw [toList_padded, Nat.ofDigitChars_append, Nat.ofDigitChars_replicate_zero, Nat.mul_zero,
    Nat.ofDigitChars_ten_toDigits]

/-- A number with few digits has just the width it is given. -/
theorem length_padded {width n : Nat} (hn : n < 10 ^ width) (hwidth : 0 < width) :
    (padded width n).toList.length = width := by
  have hdigits : (Nat.toDigits 10 n).length ≤ width :=
    (Nat.length_toDigits_le_iff (by decide) hwidth).2 hn
  rw [toList_padded, List.length_append, List.length_replicate]
  omega

end Numeral

namespace Timestamp

/-! ## Reading numbers -/

/-- A digit is no blank. -/
theorem not_isBlank_of_isDigit {c : Char} (h : c.isDigit = true) : Text.isBlank c = false := by
  have hrange : 48 ≤ c.toNat ∧ c.toNat ≤ 57 := Char.isDigit_iff_toNat.1 h
  simp [Text.isBlank]
  omega

theorem skipBlanks_cons {c : Char} {cs : List Char} (h : Text.isBlank c = false) :
    skipBlanks (c :: cs) = c :: cs :=
  List.dropWhile_cons_of_neg (by rw [h]; exact Bool.false_ne_true)

/-- Digits are read up to the first character that is none. -/
theorem number?_append {width : Nat} {ds rest : List Char} (hds : ∀ c ∈ ds, c.isDigit = true)
    (hne : ds ≠ []) (hwidth : ds.length ≤ width) (hrest : ∀ c ∈ rest.head?, c.isDigit = false) :
    number? width (ds ++ rest) = some (Nat.ofDigitChars 10 ds 0, rest) := by
  have hnone : rest.takeWhile Char.isDigit = [] := by
    cases rest with
    | nil => rfl
    | cons c rest =>
      have hc := hrest c rfl
      exact List.takeWhile_cons_of_neg (by rw [hc]; exact Bool.false_ne_true)
  have htaken : ((ds ++ rest).take width).takeWhile Char.isDigit = ds := by
    rw [← List.take_takeWhile, List.takeWhile_append_of_pos hds, hnone, List.append_nil,
      List.take_of_length_le hwidth]
  have hsome : ds.isEmpty = false := List.isEmpty_eq_false_iff.2 hne
  rw [number?, htaken, hsome, Numeral.digits?_of_isDigit hds hne]
  simp

/-- What is read as a number is a row of digits, not too long. -/
theorem number?_eq_some {width n : Nat} {cs rest : List Char} (h : number? width cs = some (n, rest)) :
    ∃ ds, cs = ds ++ rest ∧ ds.length ≤ width ∧ n < 10 ^ ds.length := by
  rw [number?] at h
  generalize hds : (cs.take width).takeWhile Char.isDigit = ds at h
  have hdigits : ∀ c ∈ ds, c.isDigit = true := by
    rw [← hds]
    exact List.all_eq_true.1 List.all_takeWhile
  have hprefix : ds <+: cs := by
    rw [← hds]
    exact (List.takeWhile_prefix _).trans (List.take_prefix _ _)
  have hshort : ds.length ≤ width := by
    have hle := (List.takeWhile_prefix Char.isDigit (l := cs.take width)).length_le
    rw [hds, List.length_take] at hle
    omega
  split at h
  · cases h
  · next hsome =>
    rw [Numeral.digits?_of_isDigit hdigits (by simpa using hsome), Option.map_some] at h
    cases h
    refine ⟨ds, ?_, hshort, Numeral.ofDigitChars_lt hdigits⟩
    obtain ⟨rest, rfl⟩ := hprefix
    rw [List.drop_left]

/-- A padded number is read back, if it is no wider than what may be read. -/
theorem number?_padded {width w n : Nat} {rest : List Char}
    (hwidth : (Numeral.padded w n).toList.length ≤ width) (hrest : ∀ c ∈ rest.head?, c.isDigit = false) :
    number? width ((Numeral.padded w n).toList ++ rest) = some (n, rest) := by
  rw [number?_append (fun c hc => Numeral.isDigit_of_mem_padded w n hc) (Numeral.padded_ne_nil w n) hwidth
    hrest, Numeral.ofDigitChars_padded]

/-- A number that is written starts with a digit. -/
theorem padded_eq_cons (w n : Nat) :
    ∃ c ds, (Numeral.padded w n).toList = c :: ds ∧ c.isDigit = true := by
  obtain ⟨c, ds, hds⟩ := List.exists_cons_of_ne_nil (Numeral.padded_ne_nil w n)
  refine ⟨c, ds, hds, Numeral.isDigit_of_mem_padded w n ?_⟩
  rw [hds]
  exact List.mem_cons_self

/-- There are no blanks in front of a padded number. -/
theorem skipBlanks_padded (w n : Nat) (rest : List Char) : skipBlanks ((Numeral.padded w n).toList ++ rest)
    = (Numeral.padded w n).toList ++ rest := by
  obtain ⟨c, ds, hds, hdigit⟩ := padded_eq_cons w n
  rw [hds]
  exact skipBlanks_cons (not_isBlank_of_isDigit hdigit)

/-- A number of two digits is read back. -/
theorem field?_padded {n : Nat} {rest : List Char} (hn : n < 100)
    (hrest : ∀ c ∈ rest.head?, c.isDigit = false) :
    field? 2 ((Numeral.padded 2 n).toList ++ rest) = some (n, rest) := by
  rw [field?, skipBlanks_padded]
  exact number?_padded (Numeral.length_padded hn (by decide)).le hrest

/-- A mark is read where it stands. -/
theorem mark?_self {c : Char} {rest : List Char} (h : Text.isBlank c = false) :
    mark? c (c :: rest) = some rest := by
  rw [mark?, skipBlanks_cons h]
  exact if_pos rfl

/-- The digits behind a minus sign are those of a year before the first. -/
theorem year?_minus (cs : List Char) :
    year? ('-' :: cs) = (number? cs.length cs).map fun x => (-(x.1 : Int), x.2) := by
  rw [year?, skipBlanks_cons rfl]
  rfl

theorem year?_plus (cs : List Char) :
    year? ('+' :: cs) = (number? cs.length cs).map fun x => ((x.1 : Int), x.2) := by
  rw [year?, skipBlanks_cons rfl]
  rfl

/-- A year is read back, with or without a sign. -/
theorem year?_yearText (year : Int) (rest : List Char) :
    year? ((yearText year).toList ++ '-' :: rest) = some (year, '-' :: rest) := by
  have hdash : ∀ c ∈ ('-' :: rest).head?, c.isDigit = false := by
    rintro c ⟨⟩
    rfl
  rw [yearText]
  split
  case isTrue hshort =>
    have hsmall : year.toNat < 10 ^ 4 := by omega
    have hread := number?_padded (Numeral.length_padded hsmall (by decide)).le hdash
    have hyear : (year.toNat : Int) = year := Int.toNat_of_nonneg hshort.1
    obtain ⟨c, ds, hds, hdigit⟩ := padded_eq_cons 4 year.toNat
    have hminus : c ≠ '-' := by
      rintro rfl
      cases hdigit
    have hplus : c ≠ '+' := by
      rintro rfl
      cases hdigit
    rw [year?, skipBlanks_padded]
    rw [hds, List.cons_append] at hread ⊢
    split
    case h_1 hsign => exact absurd (List.cons.inj hsign).1 hminus
    case h_2 hsign => exact absurd (List.cons.inj hsign).1 hplus
    case h_3 =>
      rw [hread, Option.map_some]
      dsimp only
      rw [hyear]
  case isFalse hlong =>
    let digits := (Numeral.padded 4 year.natAbs).toList
    have hwidth : digits.length ≤ (digits ++ '-' :: rest).length := by
      rw [List.length_append]
      exact Nat.le_add_right _ _
    have hread := number?_padded hwidth hdash
    split
    case isTrue hbelow =>
      have hyear : -(year.natAbs : Int) = year := by omega
      rw [String.toList_append]
      show year? ('-' :: (digits ++ '-' :: rest)) = _
      rw [year?_minus, hread, Option.map_some, hyear]
    case isFalse habove =>
      have hyear : (year.natAbs : Int) = year := by omega
      rw [String.toList_append]
      show year? ('+' :: (digits ++ '-' :: rest)) = _
      rw [year?_plus, hread, Option.map_some, hyear]

/-- The fraction of a second is read back. -/
theorem fraction?_padded {w m : Nat} {rest : List Char} (hw : 0 < w) (hw9 : w ≤ 9) (hm : m < 10 ^ w) :
    fraction? ('.' :: ((Numeral.padded w m).toList ++ 'Z' :: rest))
      = some (m * 10 ^ (9 - w), 'Z' :: rest) := by
  have hlength := Numeral.length_padded hm hw
  have hread : number? 9 ((Numeral.padded w m).toList ++ 'Z' :: rest) = some (m, 'Z' :: rest) := by
    refine number?_padded (by omega) ?_
    rintro c ⟨⟩
    rfl
  have hused : ((Numeral.padded w m).toList ++ 'Z' :: rest).length - ('Z' :: rest).length = w := by
    rw [List.length_append]
    omega
  rw [fraction?, hread]
  show some (m * 10 ^ (9 - (_ - _)), _) = _
  rw [hused]
  rfl

/-- The part of a second is read back, up to the mark of universal time. -/
theorem fraction?_fractionText {nano : Nat} (h : nano < 1000000000) (rest : List Char) :
    fraction? ((fractionText nano).toList ++ 'Z' :: rest) = some (nano, 'Z' :: rest) := by
  have hdigits : ∀ w m : Nat, 0 < w → w ≤ 9 → m < 10 ^ w → m * 10 ^ (9 - w) = nano →
      fraction? (("." ++ Numeral.padded w m).toList ++ 'Z' :: rest) = some (nano, 'Z' :: rest) := by
    rintro w m hw hw9 hm rfl
    rw [String.toList_append]
    exact fraction?_padded hw hw9 hm
  rw [fractionText]
  split
  case isTrue hnone => rw [hnone]; rfl
  case isFalse =>
    split
    case isTrue => exact hdigits 3 _ (by decide) (by decide) (by omega) (by omega)
    case isFalse =>
      split
      case isTrue => exact hdigits 6 _ (by decide) (by decide) (by omega) (by omega)
      case isFalse => exact hdigits 9 _ (by decide) (by decide) (by omega) (by omega)

/-- What is written behind the seconds does not go on with a digit. -/
theorem head?_fractionText (nano : Nat) (rest : List Char) :
    ∀ c ∈ ((fractionText nano).toList ++ 'Z' :: rest).head?, c.isDigit = false := by
  have hdot : ∀ s : String, ∀ c ∈ (("." ++ s).toList ++ 'Z' :: rest).head?, c.isDigit = false := by
    intro s c hc
    rw [String.toList_append] at hc
    obtain rfl : '.' = c := Option.some.inj hc
    rfl
  rw [fractionText]
  split
  case isTrue =>
    rintro c ⟨⟩
    rfl
  case isFalse =>
    split
    case isTrue => exact hdot _
    case isFalse =>
      split
      case isTrue => exact hdot _
      case isFalse => exact hdot _

/-! ## Moments -/

/-- A moment that can be held. -/
structure Valid (t : Timestamp) : Prop where
  /-- Its day is not before the first one. -/
  first : firstDay ≤ t.day
  /-- Its day is not after the last one. -/
  last : t.day ≤ lastDay
  /-- It is within its day. -/
  second : t.second < 86400
  /-- It is within its second, or in the leap second after it. -/
  nano : t.nano < 2000000000
  /-- Leap seconds are at the end of a minute. -/
  leap : 1000000000 ≤ t.nano → t.second % 60 = 59

/-- A moment that can be held is made from its fields. -/
theorem make?_fields {t : Timestamp} (h : t.Valid) :
    make? (dateOf t.day).1 (dateOf t.day).2.1 (dateOf t.day).2.2 (t.second / 3600) (t.second / 60 % 60)
      (t.second % 60 + t.nano / 1000000000) (t.nano % 1000000000) 0 = some t := by
  obtain ⟨hmonth, hmonths, hday, hdays⟩ := dateOf_valid t.day
  have hyear := dateOf_year h.first h.last
  have hsecond := h.second
  have hnano := h.nano
  have hleap := h.leap
  have hread : dayOf (dateOf t.day).1 (dateOf t.day).2.1 (dateOf t.day).2.2 = t.day := dayOf_dateOf t.day
  generalize dateOf t.day = date at *
  obtain ⟨year, month, day⟩ := date
  dsimp only at *
  have hclock : t.second / 3600 ≤ 23 ∧ t.second / 60 % 60 ≤ 59
      ∧ t.second % 60 + t.nano / 1000000000 ≤ 60 := by omega
  have hzone : (-86400 : Int) < 0 ∧ (0 : Int) < 86400 := by decide
  -- whether the second is a leap second or not, the same second and nanoseconds come of it
  have hfields : (if t.second % 60 + t.nano / 1000000000 = 60
        then (59, t.nano % 1000000000 + 1000000000)
        else (t.second % 60 + t.nano / 1000000000, t.nano % 1000000000))
      = (t.second % 60, t.nano) := by
    split
    · rw [Prod.mk.injEq]
      omega
    · rw [Prod.mk.injEq]
      omega
  have htotal : ((t.second / 3600 * 3600 + t.second / 60 % 60 * 60 + t.second % 60 : Nat) : Int) - 0
      = t.second := by omega
  have hsameDay : (t.second : Int).fdiv 86400 = 0 := by
    rw [Int.fdiv_eq_ediv_of_nonneg _ (by omega)]
    omega
  have hsame : ((t.second : Int).fmod 86400).toNat = t.second := by
    rw [Int.fmod_eq_emod_of_nonneg _ (by omega)]
    omega
  have hheld : firstDay ≤ t.day + 0 ∧ t.day + 0 ≤ lastDay := by
    rw [Int.add_zero]
    exact ⟨h.first, h.last⟩
  rw [make?, (Option.guard_eq_some' ()).2 hyear, (Option.guard_eq_some' ()).2 ⟨hmonth, hmonths, hday, hdays⟩,
    (Option.guard_eq_some' ()).2 hclock, (Option.guard_eq_some' ()).2 hzone, hfields]
  dsimp only [Option.bind_eq_bind, Option.bind_some]
  rw [htotal, hsameDay, hsame, hread, (Option.guard_eq_some' ()).2 hheld, Int.add_zero]
  rfl

/-- **The text of a moment is read as this moment.** -/
theorem read?_text {t : Timestamp} (h : t.Valid) : read? t.text = some t := by
  obtain ⟨hmonth, hmonths, hday, hdays⟩ := dateOf_valid t.day
  have hmake := make?_fields h
  have hsecond := h.second
  have hnano := h.nano
  have hleap := h.leap
  have hlong : daysIn (dateOf t.day).1 (dateOf t.day).2.1 ≤ 31 := by
    rw [daysIn]
    split
    · split <;> decide
    · split <;> decide
  have hfraction : t.nano % 1000000000 < 1000000000 := Nat.mod_lt _ (by decide)
  generalize hdate : dateOf t.day = date at *
  obtain ⟨year, month, day⟩ := date
  dsimp only at *
  let two (n : Nat) : List Char := (Numeral.padded 2 n).toList
  have htext : t.text.toList = (yearText year).toList ++ '-' :: (two month ++ '-' :: (two day ++ 'T' ::
      (two (t.second / 3600) ++ ':' :: (two (t.second / 60 % 60) ++ ':' ::
        (two (t.second % 60 + t.nano / 1000000000)
          ++ ((fractionText (t.nano % 1000000000)).toList ++ ['Z'])))))) := by
    have hdash : "-".toList = ['-'] := rfl
    have hletter : "T".toList = ['T'] := rfl
    have hcolon : ":".toList = [':'] := rfl
    have hzone : "Z".toList = ['Z'] := rfl
    rw [text, hdate]
    simp only [String.toList_append, List.append_assoc, hdash, hletter, hcolon, hzone,
      List.cons_append, List.nil_append, two]
  have hfield : ∀ (n : Nat) (c : Char) (rest : List Char), n < 100 → c.isDigit = false →
      field? 2 (two n ++ c :: rest) = some (n, c :: rest) := by
    intro n c rest hn hc
    refine field?_padded hn ?_
    rintro d ⟨⟩
    exact hc
  have hseconds := field?_padded (n := t.second % 60 + t.nano / 1000000000) (by omega)
    (head?_fractionText (t.nano % 1000000000) [])
  rw [read?, htext, year?_yearText]
  dsimp only [Option.bind_eq_bind, Option.bind_some]
  rw [mark?_self rfl, Option.bind_some, hfield month _ _ (by omega) rfl]
  dsimp only [Option.bind_eq_bind, Option.bind_some]
  rw [mark?_self rfl, Option.bind_some, hfield day _ _ (by omega) rfl]
  dsimp only [Option.bind_eq_bind, Option.bind_some]
  rw [if_pos (Or.inl rfl), hfield _ _ _ (by omega) rfl]
  dsimp only [Option.bind_some]
  rw [mark?_self rfl, Option.bind_some, hfield _ _ _ (by omega) rfl]
  dsimp only [Option.bind_some]
  rw [mark?_self rfl, Option.bind_some, hseconds]
  dsimp only [Option.bind_some]
  rw [fraction?_fractionText hfraction []]
  exact hmake

/-! ## What is read -/

/-- A fraction is less than a second. -/
theorem fraction?_lt {cs rest : List Char} {nano : Nat} (h : fraction? cs = some (nano, rest)) :
    nano < 1000000000 := by
  rw [fraction?.eq_def] at h
  split at h
  case h_1 cs =>
    obtain ⟨⟨n, rest'⟩, hread, hnano⟩ := Option.bind_eq_some_iff.1 h
    obtain ⟨ds, rfl, hwidth, hn⟩ := number?_eq_some hread
    obtain rfl : n * 10 ^ (9 - ((ds ++ rest').length - rest'.length)) = nano :=
      congrArg Prod.fst (Option.some.inj hnano)
    have hused : (ds ++ rest').length - rest'.length = ds.length := by
      rw [List.length_append]
      omega
    rw [hused]
    calc n * 10 ^ (9 - ds.length)
        < 10 ^ ds.length * 10 ^ (9 - ds.length) := Nat.mul_lt_mul_of_pos_right hn (Nat.pow_pos (by decide))
      _ = 10 ^ 9 := by rw [← Nat.pow_add, Nat.add_sub_cancel' hwidth]
  case h_2 =>
    cases h
    decide

/-- Hours and minutes are a whole number of minutes, whatever the sign. -/
theorem hoursAndMinutes_dvd {negative : Bool} {cs rest : List Char} {offset : Int}
    (h : (do
      let (hours, cs) ← twoDigits? cs
      let (minutes, cs) ← twoDigits? (skipColons cs)
      if minutes < 60 then
        let n : Int := hours * 3600 + minutes * 60
        return (if negative then -n else n, cs)
      else none) = some (offset, rest)) : 60 ∣ offset := by
  obtain ⟨⟨hours, _⟩, -, h⟩ := Option.bind_eq_some_iff.1 h
  obtain ⟨⟨minutes, _⟩, -, h⟩ := Option.bind_eq_some_iff.1 h
  dsimp only at h
  split at h
  · cases h
    split <;> omega
  · cases h

/-- A distance from universal time is a whole number of minutes. -/
theorem distance?_dvd {cs rest : List Char} {offset : Int} (h : distance? cs = some (offset, rest)) :
    60 ∣ offset := by
  unfold distance? at h
  dsimp only at h
  split at h
  case h_1 | h_2 | h_3 => exact hoursAndMinutes_dvd h
  case h_4 => cases h

/-- So is what stands at the end of a moment, whether it is universal time or a distance from it. -/
theorem offset?_dvd {cs rest : List Char} {offset : Int} (h : offset? cs = some (offset, rest)) :
    60 ∣ offset := by
  have hzulu : ∀ {left : List Char}, some ((0 : Int), left) = some (offset, rest) → 60 ∣ offset := by
    rintro left ⟨⟩
    exact Int.dvd_zero 60
  rw [offset?] at h
  split at h
  case h_1 =>
    split at h
    · exact hzulu h
    · split at h
      · exact hzulu h
      · exact distance?_dvd h
  case h_2 =>
    split at h
    · exact hzulu h
    · cases h
  case h_3 => cases h

/-- Fields that name a moment name one that can be held. -/
theorem valid_of_make? {year : Int} {month day hour minute second nano : Nat} {offset : Int} {t : Timestamp}
    (hnano : nano < 1000000000) (hoffset : 60 ∣ offset)
    (h : make? year month day hour minute second nano offset = some t) : t.Valid := by
  unfold make? at h
  obtain ⟨_, -, h⟩ := Option.bind_eq_some_iff.1 h
  obtain ⟨_, -, h⟩ := Option.bind_eq_some_iff.1 h
  obtain ⟨_, hclock, h⟩ := Option.bind_eq_some_iff.1 h
  obtain ⟨_, -, h⟩ := Option.bind_eq_some_iff.1 h
  have hsecond := ((Option.guard_eq_some' _).1 hclock).2.2
  obtain ⟨s, n, hpair⟩ : ∃ s n, (if second = 60 then (59, nano + 1000000000) else (second, nano)) = (s, n) :=
    ⟨_, _, rfl⟩
  have hs : s ≤ 59 ∧ n < 2000000000 ∧ (1000000000 ≤ n → s = 59) := by
    split at hpair
    · cases hpair
      omega
    · cases hpair
      omega
  rw [hpair] at h
  obtain ⟨_, hheld, h⟩ := Option.bind_eq_some_iff.1 h
  have hdays := (Option.guard_eq_some' _).1 hheld
  obtain rfl := Option.some.inj h
  have htotal : (((hour * 3600 + minute * 60 + s : Nat) : Int) - offset).fmod 86400
      = ((hour * 3600 + minute * 60 + s : Nat) - offset) % 86400 := Int.fmod_eq_emod_of_nonneg _ (by decide)
  refine ⟨hdays.1, hdays.2, ?second, hs.2.1, ?leap⟩
  case second =>
    dsimp only
    rw [htotal]
    omega
  case leap =>
    intro hlate
    have hlast := hs.2.2 hlate
    dsimp only
    rw [htotal]
    omega

/-- What is read of a moment behind its date. -/
def readTime? (year : Int) (month day : Nat) (cs : List Char) : Option Timestamp := do
  let (hour, cs) ← field? 2 cs
  let (minute, cs) ← field? 2 (← mark? ':' cs)
  let (second, cs) ← field? 2 (← mark? ':' cs)
  let (nano, cs) ← fraction? cs
  let (offset, cs) ← offset? cs
  guard (skipBlanks cs).isEmpty
  make? year month day hour minute second nano offset

/-- Whatever is read of a moment behind its date, it can be held. -/
theorem valid_of_readTime? {year : Int} {month day : Nat} {cs : List Char} {t : Timestamp}
    (h : readTime? year month day cs = some t) : t.Valid := by
  unfold readTime? at h
  obtain ⟨⟨hour, cs⟩, -, h⟩ := Option.bind_eq_some_iff.1 h
  obtain ⟨cs, -, h⟩ := Option.bind_eq_some_iff.1 h
  obtain ⟨⟨minute, cs⟩, -, h⟩ := Option.bind_eq_some_iff.1 h
  obtain ⟨cs, -, h⟩ := Option.bind_eq_some_iff.1 h
  obtain ⟨⟨second, cs⟩, -, h⟩ := Option.bind_eq_some_iff.1 h
  obtain ⟨⟨nano, cs⟩, hfraction, h⟩ := Option.bind_eq_some_iff.1 h
  obtain ⟨⟨offset, cs⟩, hoffset, h⟩ := Option.bind_eq_some_iff.1 h
  obtain ⟨-, -, h⟩ := Option.bind_eq_some_iff.1 h
  exact valid_of_make? (fraction?_lt hfraction) (offset?_dvd hoffset) h

/-- **Whatever is read as a moment can be held.** -/
theorem valid_of_read? {text : String} {t : Timestamp} (h : read? text = some t) : t.Valid := by
  unfold read? at h
  obtain ⟨⟨year, cs⟩, -, h⟩ := Option.bind_eq_some_iff.1 h
  obtain ⟨cs, -, h⟩ := Option.bind_eq_some_iff.1 h
  obtain ⟨⟨month, cs⟩, -, h⟩ := Option.bind_eq_some_iff.1 h
  obtain ⟨cs, -, h⟩ := Option.bind_eq_some_iff.1 h
  obtain ⟨⟨day, cs⟩, -, h⟩ := Option.bind_eq_some_iff.1 h
  dsimp only at h
  split at h
  case h_1 _ c cs =>
    split at h
    case isTrue =>
      have htime : readTime? year month day cs = some t := h
      exact valid_of_readTime? htime
    case isFalse => cases h
  case h_2 => cases h

end Timestamp

end Arbiter
