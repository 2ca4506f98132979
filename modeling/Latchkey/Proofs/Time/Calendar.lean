import Latchkey.Time.Calendar
import Latchkey.Proofs.Time.Instant
import Mathlib.Tactic.IntervalCases
/-!
# Dates and their counts of days

The date of a count of days exists in the calendar, and its count of days is the one it was made
from. The same holds of the date and time of an instant. A day of the cycle of 400 years is looked
at by its century, its four years in that century and its day in those: the divisions that find the
year are exact there.
-/

namespace Latchkey

namespace Date

/-- Days of a cycle before the start of a year. -/
def yearStart (year : Int) : Int := 365 * year + year / 4 - year / 100

/-- The year that a day of a cycle lies in. -/
def yearOf (day : Int) : Int := (day - day / 1460 + day / 36524 - day / 146096) / 365

/-- Days of a year before the start of a month, counted from March. -/
def monthStart (month : Int) : Int := (153 * month + 2) / 5

/-- The month, counted from March, that a day of a year lies in. -/
def monthOf (day : Int) : Int := (5 * day + 2) / 153

variable {day days : Int}

theorem yearOf_parts {century leaps rest : Int} (hcentury : 0 ≤ century ∧ century ≤ 3)
    (hleaps : 0 ≤ leaps ∧ leaps ≤ 24) (hrest : 0 ≤ rest ∧ rest ≤ 1460)
    (hlast : leaps = 24 → rest = 1460 → century = 3)
    (hday : day = 36524 * century + 1461 * leaps + rest) :
    yearOf day = 100 * century + 4 * leaps + min (rest / 365) 3 := by
  have hfours : day / 1460 = 25 * century + leaps + (24 * century + leaps + rest) / 1460 := by omega
  have hcenturies : day / 36524 - day / 146096 = century := by
    by_cases hend : leaps = 24 ∧ rest = 1460
    · have hthree := hlast hend.1 hend.2
      omega
    · have hwithin : 1461 * leaps + rest < 36524 := by omega
      have hfirst : day / 36524 = century := by omega
      have hno : day / 146096 = 0 := by omega
      omega
  unfold yearOf
  omega

/-- A day of a cycle by century, four years in it and day in those. A century has no last day of its
last four years, but the fourth one does. -/
theorem exists_parts (h : 0 ≤ day) (h' : day < 146097) :
    ∃ century leaps rest : Int, (0 ≤ century ∧ century ≤ 3) ∧ (0 ≤ leaps ∧ leaps ≤ 24) ∧
      (0 ≤ rest ∧ rest ≤ 1460) ∧ (leaps = 24 → rest = 1460 → century = 3) ∧
      day = 36524 * century + 1461 * leaps + rest := by
  let century := min (day / 36524) 3
  exact ⟨century, (day - 36524 * century) / 1461, (day - 36524 * century) % 1461,
    by omega, by omega, by omega, by omega, by omega⟩

theorem isLeapYear_add_cycles (year cycles : Int) :
    isLeapYear (year + cycles * 400 + 1) = isLeapYear (year + 1) := by
  rw [Bool.eq_iff_iff]
  simp only [isLeapYear, Bool.and_eq_true, Bool.or_eq_true, beq_iff_eq, bne_iff_ne]
  omega

/-- A year that starts in March ends with February of the next, the leap day last. -/
theorem yearOf_spec (day : Int) (h : 0 ≤ day) (h' : day < 146097) :
    (0 ≤ yearOf day ∧ yearOf day < 400) ∧ yearStart (yearOf day) ≤ day ∧
      day - yearStart (yearOf day) ≤ 365 ∧
      (day - yearStart (yearOf day) = 365 → isLeapYear (yearOf day + 1) = true) := by
  obtain ⟨century, leaps, rest, hcentury, hleaps, hrest, hlast, hday⟩ := exists_parts h h'
  have hyear := yearOf_parts hcentury hleaps hrest hlast hday
  have hfirst : yearOf day / 100 = century := by omega
  have hfours : yearOf day / 4 = 25 * century + leaps := by omega
  refine ⟨by omega, by unfold yearStart; omega, by unfold yearStart; omega, fun hleap => ?_⟩
  unfold yearStart at hleap
  simp only [isLeapYear, Bool.and_eq_true, Bool.or_eq_true, beq_iff_eq, bne_iff_ne]
  omega

theorem monthOf_spec (h : 0 ≤ day) (h' : day ≤ 365) :
    (0 ≤ monthOf day ∧ monthOf day ≤ 11) ∧ monthStart (monthOf day) ≤ day ∧
      day < monthStart (monthOf day + 1) := by
  unfold monthStart monthOf
  omega

/-- The calendar month of a month counted from March. -/
def calendarMonth (month : Int) : Int := if month < 10 then month + 3 else month - 9

/-- The date of a day, where the year and its months are counted from March. -/
def fromMarch (year month : Int) (day : Nat) : Date :=
  ⟨if calendarMonth month ≤ 2 then year + 1 else year, (calendarMonth month).toNat, day⟩

theorem ofDays_eq (days : Int) :
    let day := (days + 719468) % 146097
    let dayOfYear := day - yearStart (yearOf day)
    ofDays days =
      fromMarch (yearOf day + (days + 719468) / 146097 * 400) (monthOf dayOfYear)
        (dayOfYear - monthStart (monthOf dayOfYear) + 1).toNat := rfl

theorem toDays_fromMarch {year month : Int} (h : 0 ≤ month ∧ month ≤ 11) (day : Nat) :
    (fromMarch year month day).toDays =
      year / 400 * 146097 + yearStart (year % 400) + monthStart month + day - 719469 := by
  unfold fromMarch toDays calendarMonth yearStart monthStart
  by_cases hmonth : month < 10
  · have hback : (((month + 3).toNat + 9) % 12 : Nat) = month := by omega
    have hlate : ¬(month + 3).toNat ≤ 2 := by omega
    simp only [if_pos hmonth, hback, if_neg hlate, if_neg (show ¬month + 3 ≤ 2 by omega)]
    omega
  · have hback : (((month - 9).toNat + 9) % 12 : Nat) = month := by omega
    have hearly : (month - 9).toNat ≤ 2 := by omega
    simp only [if_neg hmonth, hback, if_pos hearly, if_pos (show month - 9 ≤ 2 by omega),
      Int.add_sub_cancel]
    omega

theorem monthLength_calendarMonth (year : Int) {month : Int} (h : 0 ≤ month) (h' : month < 11) :
    (monthLength year (calendarMonth month).toNat : Int) =
      monthStart (month + 1) - monthStart month := by
  interval_cases month <;> rfl

theorem valid_fromMarch {year month : Int} {day : Nat} (h : 0 ≤ month ∧ month ≤ 11)
    (hday : 1 ≤ day) (hlast : monthStart month + day ≤ monthStart (month + 1))
    (hyear : monthStart month + day ≤ 365 ∨
      monthStart month + day = 366 ∧ isLeapYear (year + 1) = true) :
    (fromMarch year month day).Valid := by
  refine ⟨hday, ?_⟩
  by_cases hfebruary : month = 11
  · subst hfebruary
    have hstart : monthStart 11 = 337 := rfl
    change day ≤ if isLeapYear (year + 1) then 29 else 28
    cases hleap : isLeapYear (year + 1) with
    | true =>
        rw [if_pos rfl]
        omega
    | false =>
        rw [if_neg Bool.false_ne_true]
        simp only [hleap, Bool.false_eq_true, and_false, or_false] at hyear
        omega
  · change day ≤ monthLength (fromMarch year month day).year (calendarMonth month).toNat
    have hlength := monthLength_calendarMonth (fromMarch year month day).year h.1 (by omega)
    omega

theorem toDays_ofDays (days : Int) : (ofDays days).toDays = days := by
  have hyear := yearOf_spec ((days + 719468) % 146097) (by omega) (by omega)
  have hmonth := monthOf_spec (by omega) hyear.2.2.1
  rw [ofDays_eq, toDays_fromMarch hmonth.1, Int.add_mul_emod_self_right,
    Int.emod_eq_of_lt hyear.1.1 hyear.1.2]
  omega

theorem valid_ofDays (days : Int) : (ofDays days).Valid := by
  have hyear := yearOf_spec ((days + 719468) % 146097) (by omega) (by omega)
  have hmonth := monthOf_spec (by omega) hyear.2.2.1
  rw [ofDays_eq]
  refine valid_fromMarch hmonth.1 (by omega) (by omega) ?_
  by_cases hleap : (days + 719468) % 146097 - yearStart (yearOf ((days + 719468) % 146097)) = 365
  · right
    rw [isLeapYear_add_cycles]
    exact ⟨by omega, hyear.2.2.2 hleap⟩
  · left
    omega

theorem monthLength_le (year : Int) (month : Nat) : monthLength year month ≤ 31 := by
  unfold monthLength
  split <;> try omega
  split <;> omega

theorem Valid.day_le {d : Date} (h : d.Valid) : d.day ≤ 31 :=
  h.2.trans (monthLength_le d.year d.month)

theorem Valid.month_le {d : Date} (h : d.Valid) : d.month ≤ 12 := by
  have hlength := h.1.trans h.2
  unfold monthLength at hlength
  split at hlength <;> omega

end Date

namespace DateTime

/-- An instant is the one at which a clock in universal time shows its date and time. -/
theorem instant?_ofInstant (t : Instant) : (ofInstant t).instant? 0 = some t := by
  have hnanos := t.nanos_lt
  have hlow := t.earliestSecond_le
  have hhigh := t.le_latestSecond
  unfold secondLength at hnanos
  have hsecondOfDay : t.secondOfDay = t.second % 86400 := rfl
  unfold instant? ofInstant
  dsimp only
  rw [Date.toDays_ofDays, if_pos (by split at hnanos <;> omega), Instant.ofSecond?_eq_some_iff]
  split at hnanos <;> omega

/-- A time of day as the clock can show it, second 60 included. -/
structure Valid (t : DateTime) : Prop where
  date : t.date.Valid
  hour : t.hour ≤ 23
  minute : t.minute ≤ 59
  second : t.second ≤ 60
  nano : t.nano < 1000000000

theorem valid_ofInstant (t : Instant) : (ofInstant t).Valid := by
  have hnanos := t.nanos_lt_two_seconds
  constructor
  · exact Date.valid_ofDays _
  all_goals simp only [ofInstant, Instant.secondOfDay]; omega

end DateTime

end Latchkey
