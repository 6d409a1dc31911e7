/-!
# The calendar

Dates of the proleptic Gregorian calendar, with year 0 and negative years.

## Main definitions

- `Date` — a date that exists
- `Date.next`, `Date.previous`, `Date.addDays` — neighbouring dates
- `Date.number` — the day's position, so that differences of dates are differences of numbers
-/

namespace Waterway

/-- Whether a year has a 29 February. -/
def isLeapYear (year : Int) : Bool :=
  year % 4 = 0 && (year % 100 ≠ 0 || year % 400 = 0)

/-- The number of days of a month; 0 if there is no such month. -/
def daysInMonth (year : Int) (month : Nat) : Nat :=
  if month = 2 then (if isLeapYear year then 29 else 28)
  else if month = 4 ∨ month = 6 ∨ month = 9 ∨ month = 11 then 30
  else if 1 ≤ month ∧ month ≤ 12 then 31
  else 0

/-- A date of the proleptic Gregorian calendar. -/
structure Date where
  year : Int
  month : Nat
  day : Nat
  /-- The first of the month exists in every month that does. -/
  day_pos : 1 ≤ day
  /-- The month has the day. -/
  day_le : day ≤ daysInMonth year month
deriving DecidableEq, Repr

/-- Every month of the calendar has a first day. -/
theorem one_le_daysInMonth {year : Int} {month : Nat} (low : 1 ≤ month) (high : month ≤ 12) :
    1 ≤ daysInMonth year month := by
  unfold daysInMonth
  repeat' split
  all_goals omega

namespace Date

/-- The date with the given parts, if it exists. -/
def mk? (year : Int) (month day : Nat) : Option Date :=
  if h : 1 ≤ day ∧ day ≤ daysInMonth year month then some ⟨year, month, day, h.1, h.2⟩ else none

/-- The month of a date is one of twelve. -/
theorem month_range (d : Date) : 1 ≤ d.month ∧ d.month ≤ 12 := by
  have h := Nat.le_trans d.day_pos d.day_le
  unfold daysInMonth at h
  repeat' split at h
  all_goals omega

def newYear (year : Int) : Date :=
  ⟨year, 1, 1, Nat.le_refl 1, one_le_daysInMonth (by omega) (by omega)⟩

def next (d : Date) : Date :=
  if h : d.day < daysInMonth d.year d.month then
    ⟨d.year, d.month, d.day + 1, by omega, h⟩
  else if h : d.month < 12 then
    ⟨d.year, d.month + 1, 1, Nat.le_refl 1, one_le_daysInMonth (by omega) h⟩
  else newYear (d.year + 1)

def previous (d : Date) : Date :=
  if h : 1 < d.day then
    ⟨d.year, d.month, d.day - 1, by omega, Nat.le_trans (Nat.sub_le _ _) d.day_le⟩
  else if h : 1 < d.month then
    ⟨d.year, d.month - 1, daysInMonth d.year (d.month - 1),
      one_le_daysInMonth (by omega) (by have := d.month_range; omega), Nat.le_refl _⟩
  else
    ⟨d.year - 1, 12, 31, by omega, Nat.le_refl 31⟩

/-- The date `n` days later. -/
def after (d : Date) : Nat → Date
  | 0 => d
  | n + 1 => d.next.after n

/-- The date `n` days earlier. -/
def before (d : Date) : Nat → Date
  | 0 => d
  | n + 1 => d.previous.before n

/-- The date a number of days away. -/
def addDays (d : Date) (days : Int) : Date :=
  if 0 ≤ days then d.after days.toNat else d.before days.natAbs

/-- The number of days of the year before the first of a month. -/
def daysBeforeMonth (year : Int) (month : Nat) : Nat :=
  (List.range (month - 1)).foldl (fun n m => n + daysInMonth year (m + 1)) 0

/-- The position of a date: 1 for 1 January of year 1. -/
def number (d : Date) : Int :=
  let y := d.year - 1
  365 * y + y / 4 - y / 100 + y / 400 + daysBeforeMonth d.year d.month + d.day

end Date

end Waterway
