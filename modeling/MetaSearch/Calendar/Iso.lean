import MetaSearch.Calendar.Moment

/-!
# Reading international dates

Dates as year, month and day or as year, week and day, with or without hyphens, followed by any one character
and a time of day with or without colons, an optional fraction of a second and an optional offset.
-/

namespace MetaSearch.Iso

/-- The number spelled by the first `n` characters, which must be digits, and the rest. -/
def digits? : (n : Nat) → List Char → Option (Nat × List Char)
  | n, s => go n 0 s
where
  go : Nat → Nat → List Char → Option (Nat × List Char)
    | 0, value, s => some (value, s)
    | n + 1, value, c :: s => if c.isDigit then go n (10 * value + (c.toNat - 48)) s else none
    | _ + 1, _, [] => none

/-- The length of the date at the front of a text, where it can be told. -/
def dateLength (s : List Char) : Option Nat :=
  let at_ (i : Nat) : Char := s.getD i '\x00'
  if s.length = 7 then some 7
  else if at_ 4 = '-' then
    if at_ 5 = 'W' then
      if 8 < s.length ∧ at_ 8 = '-' then
        if s.length = 9 then none
        else if 10 < s.length ∧ (at_ 10).isDigit then some 8
        else some 10
      else some 8
    else some 10
  else if at_ 4 = 'W' then
    let run := 7 + ((s.drop 7).takeWhile Char.isDigit).length
    if run < 9 then some run else if run % 2 = 0 then some 7 else some 8
  else some 8

/-- The day of a year, week and day of the week. -/
def weekDate? (year week day : Nat) : Option Date :=
  let jan1 := Date.weekday ⟨year, 1, 1⟩
  let long := jan1 = 3 ∨ (jan1 = 2 ∧ Date.isLeap year)
  if year < 1 ∨ 9999 < year ∨ week < 1 ∨ (53 < week ∨ (week = 53 ∧ ¬ long)) ∨ day < 1 ∨ 7 < day then none
  else
    let n := Date.firstWeekStart year + (7 * (week - 1) + (day - 1) : Nat)
    if n < 0 ∨ Date.calendarDays ≤ n then none else some (Date.ofDayNumber n.toNat)

/-- The date that a whole text spells. -/
def date? (s : List Char) : Option Date := do
  let (year, s) ← digits? 4 s
  let hyphens := s.head? == some '-'
  let s := if hyphens then s.drop 1 else s
  match s with
  | 'W' :: s =>
    let (week, s) ← digits? 2 s
    match s with
    | [] => weekDate? year week 1
    | _ =>
      let s ← if hyphens then (if s.head? == some '-' then some (s.drop 1) else none) else some s
      let (day, _) ← digits? 1 s
      weekDate? year week day
  | _ =>
    let (month, s) ← digits? 2 s
    let s ← if hyphens then (if s.head? == some '-' then some (s.drop 1) else none) else some s
    let (day, s) ← digits? 2 s
    let d : Date := ⟨year, month, day⟩
    if s.isEmpty && d.isValid then some d else none

/-- Hours, minutes, seconds and microseconds, and whether something follows them. -/
structure Clock where
  hour : Nat := 0
  minute : Nat := 0
  second : Nat := 0
  micros : Nat := 0
  more : Bool := false

/-- A fraction of a second: its first six digits count. -/
def fraction? (clock : Clock) (s : List Char) : Option Clock := do
  let places := min 6 s.length
  let (value, rest) ← digits? places s
  some { clock with
    micros := value * Nat.pow 10 (6 - places), more := !(rest.dropWhile Char.isDigit).isEmpty }

/-- The clock with one more character after it, which must be in ASCII. -/
def Clock.followedBy? (clock : Clock) (c : Char) : Option Clock :=
  if c.toNat < 128 then some { clock with more := true } else none

/-- The time of day at the front of a text: hours, then minutes and seconds each after a colon, or all
without colons. -/
def clock? (s : List Char) : Option Clock := do
  let (hour, s) ← digits? 2 s
  let clock : Clock := { hour }
  match s with
  | [] => some clock
  | [c] => clock.followedBy? c
  | c :: tail =>
    let colons := c == ':'
    if c == '.' || c == ',' then fraction? clock tail
    else
      let (minute, s) ← digits? 2 (if colons then tail else s)
      let clock := { clock with minute }
      match s with
      | [] => some clock
      | [c] => clock.followedBy? c
      | c :: tail =>
        if c == '.' || c == ',' then fraction? clock tail
        else
          let s ← if colons then (if c == ':' then some tail else none) else some s
          let (second, s) ← digits? 2 s
          let clock := { clock with second }
          match s with
          | [] => some clock
          | [c] => clock.followedBy? c
          | c :: tail =>
            if c == '.' || c == ',' || (colons && c == ':') then fraction? clock tail
            else if colons then none
            else fraction? clock s

/-- The clock's time in microseconds. -/
def Clock.ticks (c : Clock) : Nat :=
  ((c.hour * 60 + c.minute) * 60 + c.second) * 1000000 + c.micros

/-- Whether the clock shows a time of day. -/
def Clock.isTimeOfDay (c : Clock) : Bool :=
  c.hour < 24 && c.minute < 60 && c.second < 60

/-- A time of day and an offset from universal time that a whole text spells. -/
def time? (s : List Char) : Option (Nat × Option Int) := do
  let isMark (c : Char) : Bool := c == '+' || c == '-' || c == 'Z'
  let front := s.takeWhile (!isMark ·)
  let clock ← clock? front
  match s.dropWhile (!isMark ·) with
  | [] => if clock.more || !clock.isTimeOfDay then none else some (clock.ticks, none)
  | 'Z' :: rest => if rest.isEmpty && clock.isTimeOfDay then some (clock.ticks, some 0) else none
  | mark :: rest =>
    let zone ← clock? rest
    if zone.more || !clock.isTimeOfDay || ticksPerDay ≤ zone.ticks then none
    else some (clock.ticks, some (if mark == '-' then -(zone.ticks : Int) else zone.ticks))

/-- The clock reading that a text spells. -/
def reading? (text : String) : Option Reading := do
  let s := text.toList
  if s.length < 7 then none
  else
    let n ← dateLength s
    let date ← date? (s.take n)
    if s.length ≤ n then Reading.ofDate? date 0 none
    else
      let (ofDay, offset) ← time? (s.drop (n + 1))
      Reading.ofDate? date ofDay offset

end MetaSearch.Iso
