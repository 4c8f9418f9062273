import MetaSearch.Calendar.Date
import MetaSearch.Fault

/-!
# Moments

A moment is a clock reading in microseconds from the start of year 1 together with the clock's offset from
universal time. The reading never leaves the years 1 to 9999, which the type records; an operation that would
leave them has no result.
-/

namespace MetaSearch

/-- Microseconds in a day. -/
def ticksPerDay : Nat := 86400000000

/-- Microseconds in the calendar. -/
def calendarTicks : Nat := Date.calendarDays * ticksPerDay

theorem calendarTicks_pos : 0 < calendarTicks := by decide

/-- A clock reading, with the clock's offset east of universal time where it has one, both in
microseconds. -/
structure Reading where
  ticks : Nat
  offset : Option Int
  inCalendar : ticks < calendarTicks
  deriving DecidableEq, Repr

/-- A clock reading with a known offset east of universal time. -/
structure Moment where
  ticks : Nat
  offset : Int
  inCalendar : ticks < calendarTicks
  deriving DecidableEq, Repr

namespace Moment

/-- The moment at which a clock of the given offset shows `ticks`. -/
def at? (ticks offset : Int) : Option Moment :=
  if h : 0 ≤ ticks ∧ ticks < calendarTicks then
    some ⟨ticks.toNat, offset, by omega⟩
  else none

/-- The reading that universal time shows, possibly outside the calendar. -/
def universalTicks (m : Moment) : Int := m.ticks - m.offset

/-- The date on the clock. -/
def date (m : Moment) : Date := Date.ofDayNumber (m.ticks / ticksPerDay)

/-- The microseconds since midnight on the clock. -/
def ofDay (m : Moment) : Nat := m.ticks % ticksPerDay

/-- The same instant on a clock of universal time. -/
def toUniversal (m : Moment) : Except Fault Moment :=
  match at? m.universalTicks 0 with
  | some u => .ok u
  | none => .error .outsideCalendar

/-- The moment `delta` microseconds later on the same clock. -/
def shift (m : Moment) (delta : Int) : Except Fault Moment :=
  match at? (m.ticks + delta) m.offset with
  | some u => .ok u
  | none => .error .outsideCalendar

/-- Midnight at the start of the moment's day. -/
def midnight (m : Moment) : Moment :=
  ⟨m.ticks - m.ticks % ticksPerDay, m.offset, Nat.lt_of_le_of_lt (Nat.sub_le ..) m.inCalendar⟩

/-- Whether the first instant lies before the second. -/
def before (m n : Moment) : Bool := m.universalTicks < n.universalTicks

/-- The moment of a date and a time of day on a clock. -/
def ofDate? (d : Date) (ofDay : Nat) (offset : Int) : Option Moment :=
  if d.isValid && ofDay < ticksPerDay then at? (d.dayNumber * ticksPerDay + ofDay : Nat) offset
  else none

/-- The start of the year 1970 in microseconds from the start of year 1. -/
def epochTicks : Nat := 719162 * ticksPerDay

/-- The moment a number of seconds after the start of 1970, in universal time. -/
def ofEpochSeconds? (seconds : Int) : Option Moment :=
  at? (epochTicks + seconds * 1000000) 0

end Moment

/-- The date and time of day of a clock reading, `mark` between them; the fraction of a second only where it
is not zero. -/
def clockText (mark : String) (ticks : Nat) : String :=
  let t := ticks % ticksPerDay
  let micros := t % 1000000
  let s := t / 1000000
  (Date.ofDayNumber (ticks / ticksPerDay)).text ++ mark ++ Text.padded 2 (s / 3600) ++ ":" ++
    Text.padded 2 (s / 60 % 60) ++ ":" ++ Text.padded 2 (s % 60) ++
    (if micros = 0 then "" else "." ++ Text.padded 6 micros)

/-- An offset from universal time: a sign, hours and minutes, and smaller parts only where they are not
zero. -/
def offsetText (offset : Int) : String :=
  let n := offset.natAbs
  let micros := n % 1000000
  let s := n / 1000000
  (if offset < 0 then "-" else "+") ++ Text.padded 2 (s / 3600) ++ ":" ++ Text.padded 2 (s / 60 % 60) ++
    (if s % 60 = 0 && micros = 0 then "" else ":" ++ Text.padded 2 (s % 60)) ++
    (if micros = 0 then "" else "." ++ Text.padded 6 micros)

namespace Reading

/-- The reading of a clock, where it lies in the calendar. -/
def at? (ticks : Int) (offset : Option Int) : Option Reading :=
  if h : 0 ≤ ticks ∧ ticks < calendarTicks then
    some ⟨ticks.toNat, offset, by omega⟩
  else none

/-- The reading of a date and a time of day. -/
def ofDate? (d : Date) (ofDay : Nat) (offset : Option Int) : Option Reading :=
  if d.isValid && ofDay < ticksPerDay then at? (d.dayNumber * ticksPerDay + ofDay : Nat) offset
  else none

/-- The instant of a reading in universal time; a clock without an offset is taken to show it already. -/
def toUniversal (r : Reading) : Except Fault Moment :=
  Moment.toUniversal ⟨r.ticks, r.offset.getD 0, r.inCalendar⟩

/-- The text of a reading, `mark` between date and time. -/
def text (mark : String) (r : Reading) : String :=
  clockText mark r.ticks ++ (match r.offset with | some o => offsetText o | none => "")

end Reading

namespace Moment

/-- The text of a moment with its offset. -/
def text (m : Moment) : String :=
  clockText "T" m.ticks ++ offsetText m.offset

/-- The moment as a timestamp: universal time to the second, marked `Z`. -/
def timestamp (m : Moment) : Except Fault String :=
  m.toUniversal.map fun u =>
    clockText "T" (u.ticks - u.ticks % 1000000) ++ "Z"

/-- The clock reading moved by whole calendar months. The day is clamped to the month's end. -/
def shiftMonths (m : Moment) (months : Int) : Except Fault Moment :=
  let d := m.date
  let total : Int := d.year * 12 + ((d.month : Int) - 1) + months
  let year := total.fdiv 12
  let month := (total.fmod 12).toNat + 1
  if year < -2147483648 ∨ 2147483647 < year then .error .outsideCalendar
  else if year < 1 ∨ 9999 < year then .error .dateField
  else
    let y := year.toNat
    match ofDate? ⟨y, month, min d.day (Date.daysInMonth y month)⟩ m.ofDay m.offset with
    | some u => .ok u
    | none => .error .dateField

end Moment

end MetaSearch
