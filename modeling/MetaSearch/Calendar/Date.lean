import MetaSearch.Text.Basic

/-!
# Dates

Days of the Gregorian calendar from year 1 to year 9999. A date and its day number, counted from 0 at the first
day of year 1, determine each other.
-/

namespace MetaSearch

/-- A day of the calendar by year, month and day of the month. -/
structure Date where
  year : Nat
  month : Nat
  day : Nat
  deriving DecidableEq, Repr, Inhabited

namespace Date

/-- Every fourth year, but of the full centuries only every fourth. -/
def isLeap (y : Nat) : Bool :=
  y % 4 == 0 && (y % 100 != 0 || y % 400 == 0)

/-- The number of days in a month. -/
def daysInMonth (y m : Nat) : Nat :=
  match m with
  | 2 => if isLeap y then 29 else 28
  | 4 | 6 | 9 | 11 => 30
  | _ => 31

/-- The number of days in a year. -/
def daysInYear (y : Nat) : Nat :=
  if isLeap y then 366 else 365

/-- The number of days from the start of year 1 to the start of year `y`. -/
def daysBeforeYear (y : Nat) : Nat :=
  let p := y - 1
  p * 365 + p / 4 - p / 100 + p / 400

/-- The number of days from the start of year `y` to the start of its month `m`. -/
def daysBeforeMonth (y : Nat) : Nat → Nat
  | 0 | 1 => 0
  | m + 1 => daysBeforeMonth y m + daysInMonth y m

/-- Whether the fields name a day of the calendar. -/
def isValid (d : Date) : Bool :=
  1 ≤ d.year && d.year ≤ 9999 && 1 ≤ d.month && d.month ≤ 12 && 1 ≤ d.day &&
    d.day ≤ daysInMonth d.year d.month

/-- The number of days from the first day of year 1. -/
def dayNumber (d : Date) : Nat :=
  daysBeforeYear d.year + daysBeforeMonth d.year d.month + (d.day - 1)

/-- The year that holds a day number. -/
def yearOf (n : Nat) : Nat :=
  let n400 := n / 146097
  let r := n % 146097
  let n100 := min (r / 36524) 3
  let r := r - n100 * 36524
  let n4 := r / 1461
  let r := r % 1461
  let n1 := min (r / 365) 3
  n400 * 400 + n100 * 100 + n4 * 4 + n1 + 1

/-- The month, from `m` on, and day of the month of the day that lies `n` days after the start of month `m`;
`left` counts the months that may follow. -/
def monthFrom (y : Nat) : (left m n : Nat) → Nat × Nat
  | 0, m, n => (m, n + 1)
  | left + 1, m, n =>
    if n < daysInMonth y m then (m, n + 1) else monthFrom y left (m + 1) (n - daysInMonth y m)

/-- The day with a given day number. -/
def ofDayNumber (n : Nat) : Date :=
  let y := yearOf n
  let (m, d) := monthFrom y 11 1 (n - daysBeforeYear y)
  ⟨y, m, d⟩

/-- The day of the week, Monday being 0. -/
def weekday (d : Date) : Nat :=
  d.dayNumber % 7

/-- The first day of week 1 of a year: the Monday of the week that holds the fourth of January. -/
def firstWeekStart (y : Nat) : Int :=
  let fourth : Nat := dayNumber ⟨y, 1, 4⟩
  (fourth : Int) - (fourth % 7 : Nat)

/-- Year, month and day in figures, hyphens between them. -/
def text (d : Date) : String :=
  Text.padded 4 d.year ++ "-" ++ Text.padded 2 d.month ++ "-" ++ Text.padded 2 d.day

/-- The number of days in the calendar. -/
def calendarDays : Nat := 3652059

theorem dayNumber_first : dayNumber ⟨1, 1, 1⟩ = 0 := rfl

theorem dayNumber_last : dayNumber ⟨9999, 12, 31⟩ + 1 = calendarDays := by decide

theorem daysInMonth_pos (y m : Nat) : 0 < daysInMonth y m := by
  unfold daysInMonth
  split <;> (try split) <;> omega

end Date

end MetaSearch
