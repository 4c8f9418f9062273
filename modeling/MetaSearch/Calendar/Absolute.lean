import MetaSearch.Calendar.Iso
import MetaSearch.Calendar.Layout
import MetaSearch.Calendar.Mail

/-!
# Absolute dates

A text names a moment by a layout, or, without one, as seconds or milliseconds since 1970, as an international
date, as a date of a mail header, or in one of a few common layouts, tried in that order. A date without a
year is the most recent one: it lies in the year of the current time, or in the year before where that would
be more than a day ahead.
-/

namespace MetaSearch.Calendar

/-- The layouts that are tried on a date in no known format. -/
def commonLayouts : List String :=
  ["2006-01-02 15:04:05", "2006-01-02 15:04", "2006-01-02", "2006/01/02 15:04:05", "2006/01/02",
   "02/01/2006 15:04", "02/01/2006", "02.01.2006 15:04", "02.01.2006", "02-01-2006", "02 Jan 2006",
   "02 January 2006", "Jan 02, 2006", "January 02, 2006", "Jan. 02, 2006", "02 Jan 2006 15:04",
   "Mon, 02 Jan 2006 15:04:05"]

/-- The moment a number of seconds or milliseconds after the start of 1970, written with 9 to 13 digits. -/
def ofEpochText? (text : String) : Option Moment :=
  let s := text.toList
  if 9 ≤ s.length && s.length ≤ 13 && s.all Text.isDecimal then
    let n := Layout.number s
    Moment.ofEpochSeconds? (if 100000000000 < n then n / 1000 else n : Nat)
  else none

/-- A clock reading moved to another year. -/
def inYear (r : Reading) (year : Int) : Except Fault Reading :=
  let d := Date.ofDayNumber (r.ticks / ticksPerDay)
  if year < 1 then .error .dateField
  else
    match Reading.ofDate? ⟨year.toNat, d.month, d.day⟩ (r.ticks % ticksPerDay) r.offset with
    | some r => .ok r
    | none => .error .dateField

/-- The most recent moment that a reading without a year can mean. -/
def mostRecent (r : Reading) (now : Moment) : Except Fault Moment := do
  let year := now.date.year
  let thisYear ← inYear r year
  let here ← thisYear.toUniversal
  let limit ← now.shift ticksPerDay
  if limit.before here then
    let lastYear ← inYear r ((year : Int) - 1)
    lastYear.toUniversal
  else .ok here

/-- The moment that a text names in a layout. -/
def byLayout? (layout text : String) (now : Moment) : Except Fault (Option Moment) := do
  let ps := Layout.pieces layout
  match ← Layout.reading? ps text with
  | none => .ok none
  | some r =>
    if Layout.namesYear ps then some <$> r.toUniversal else some <$> mostRecent r now

/-- The moment that a text names in the first layout that reads it. -/
def byCommonLayout? (text : String) : List String → Except Fault (Option Moment)
  | [] => .ok none
  | layout :: rest => do
    match ← Layout.reading? (Layout.pieces layout) text with
    | some r => some <$> r.toUniversal
    | none => byCommonLayout? text rest

/-- The moment that a text names, read by a layout where one is given. -/
def absolute? (text : String) (layout : Option String) (now : Moment) :
    Except Fault (Option Moment) := do
  let text := Text.strip text
  if text.isEmpty then .ok none
  else
    match layout with
    | some layout => byLayout? layout text now
    | none =>
      match ofEpochText? text with
      | some m => .ok (some m)
      | none =>
        match Iso.reading? text with
        | some r => some <$> r.toUniversal
        | none =>
          match ← Mail.reading? text with
          | some r => some <$> r.toUniversal
          | none => byCommonLayout? text commonLayouts

end MetaSearch.Calendar
