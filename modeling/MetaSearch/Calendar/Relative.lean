import MetaSearch.Calendar.Moment
import MetaSearch.Number.Numeral
import MetaSearch.Text.Blank
import MetaSearch.Text.Letter

/-!
# Relative dates

Phrases that name a moment by its distance from the current time: `just now`, `yesterday at 10:30`,
`2 weeks+`, `1 hour, 5 minutes ago`. The rules are tried in that order. In the last one every pair of an amount
and a unit in the phrase is subtracted in turn; pairs with an unknown unit are passed over.
-/

namespace MetaSearch.Calendar

/-- A unit of time. -/
inductive TimeUnit where
  | seconds | minutes | hours | days | weeks | months | years
  deriving DecidableEq, Repr

/-- The words for each unit. -/
def unitWords : List (TimeUnit × List String) :=
  [(.seconds, ["s", "sec", "secs", "second", "seconds"]),
   (.minutes, ["m", "min", "mins", "minute", "minutes"]),
   (.hours, ["h", "hr", "hrs", "hour", "hours"]),
   (.days, ["d", "day", "days"]),
   (.weeks, ["w", "wk", "wks", "week", "weeks"]),
   (.months, ["mo", "mon", "mons", "month", "months"]),
   (.years, ["y", "yr", "yrs", "year", "years"])]

/-- The unit that a word stands for. -/
def unit? (word : String) : Option TimeUnit :=
  (unitWords.find? fun (_, words) => words.contains word).map (·.1)

/-- The length of a unit: so many microseconds, or so many calendar months. -/
def TimeUnit.length : TimeUnit → Nat ⊕ Nat
  | .seconds => .inl 1000000
  | .minutes => .inl 60000000
  | .hours => .inl 3600000000
  | .days => .inl 86400000000
  | .weeks => .inl 604800000000
  | .months => .inr 1
  | .years => .inr 12

/-- An amount of a unit of `factor` microseconds, in whole microseconds. The fraction of the amount is
multiplied in floating point and the sum rounded to the nearest, a tie to the even number. -/
def ticksOf? (factor : Nat) (amount : Binary64) : Option Nat :=
  match amount with
  | .finite _ m e =>
    let (n, d) := Binary64.ratio m e
    let whole := n / d * factor
    if n % d = 0 then some whole
    else
      let part := (Binary64.ofRatio false (n % d) d).mulNat factor
      match part with
      | .finite _ m e =>
        let (a, b) := Binary64.ratio m e
        let sum := whole + a / b
        let rest := a % b
        some (if b < 2 * rest || (2 * rest == b && sum % 2 == 1) then sum + 1 else sum)
      | _ => none
  | _ => none

/-- The moment an amount of a unit before another; months and years count whole ones alone. -/
def subtract (m : Moment) (amount : Binary64) (unit : TimeUnit) : Except Fault Moment :=
  match unit.length with
  | .inl factor =>
    match ticksOf? factor amount with
    | some ticks => m.shift (-(ticks : Int))
    | none => .error .outsideCalendar
  | .inr months =>
    match amount.truncate? with
    | some n => m.shiftMonths (-(n * months))
    | none => .error .infiniteNumber

/-- The moment a whole amount of a unit before another. -/
def subtractWhole (m : Moment) (amount : Nat) (unit : TimeUnit) : Except Fault Moment :=
  match unit.length with
  | .inl factor => m.shift (-((amount * factor : Nat) : Int))
  | .inr months => m.shiftMonths (-((amount * months : Nat) : Int))

/-- The digits at the front of a text and the rest. -/
def digitsOf (s : List Char) : List Char × List Char :=
  (s.takeWhile Text.isDecimal, s.dropWhile Text.isDecimal)

/-- The number that digits of any script spell. -/
def digitsValue (s : List Char) : Nat :=
  Numeral.ofDigits (s.filterMap Text.decimalValue?)

/-- A clock time after the name of a day: `10:30`, `, 10:30`, `at 10:30`. -/
def clockTime? (s : List Char) : Option (Nat × Nat) :=
  let s := s.dropWhile (!Text.isWordChar ·)
  let s := match s with
    | 'a' :: 't' :: r => r.dropWhile Text.isBlank
    | r => r
  let (hour, rest) := digitsOf s
  if hour.isEmpty || 2 < hour.length then none
  else
    match rest with
    | ':' :: a :: b :: _ =>
      match Text.decimalValue? a, Text.decimalValue? b with
      | some x, some y => some (digitsValue hour, 10 * x + y)
      | _, _ => none
    | _ => none

/-- The first place in a phrase that names a day with a clock time: how many days back, and the time. -/
def dayTime? : List Char → Option (Nat × Nat × Nat)
  | [] => none
  | c :: s =>
    let here : Option (Nat × List Char) :=
      match Text.after? "today".toList (c :: s) with
      | some r => some (0, r)
      | none => (Text.after? "yesterday".toList (c :: s)).map (1, ·)
    match here.bind fun (back, r) => (clockTime? r).map (back, ·) with
    | some found => some found
    | none => dayTime? s

/-- What follows a number in a phrase such as `2 weeks+`. -/
def plusUnit? (s : List Char) : Option TimeUnit :=
  let s := s.dropWhile Text.isBlank
  [("year", TimeUnit.years), ("month", .months), ("week", .weeks), ("day", .days)].findSome?
    fun (word, unit) =>
      (Text.after? word.toList s).bind fun r =>
        match r with
        | '+' :: _ => some unit
        | 's' :: '+' :: _ => some unit
        | _ => none

/-- The first number in a phrase that a unit and a plus sign follow. -/
def plusAmount? : List Char → Option (List Char × TimeUnit)
  | [] => none
  | c :: s =>
    let here :=
      if Text.isDecimal c then
        let (ds, rest) := digitsOf (c :: s)
        (plusUnit? rest).map (ds, ·)
      else none
    match here with
    | some found => some found
    | none => plusAmount? s

/-- Whether a character is a small letter from a to z. -/
def isSmallLetter (c : Char) : Bool := 'a' ≤ c && c ≤ 'z'

/-- An amount with a unit: the value, the word for the unit and the length of the whole. -/
structure Part where
  amount : Binary64
  word : String
  length : Nat

/-- The word at the front of a text. -/
def wordOf (s : List Char) : List Char := s.takeWhile isSmallLetter

/-- A number with its optional fraction at the front of a text, and the rest. -/
def amountOf? (s : List Char) : Option (Binary64 × List Char) :=
  let (whole, rest) := digitsOf s
  if whole.isEmpty then none
  else
    let places := match rest with
      | '.' :: r => (digitsOf r).1
      | _ => []
    let rest := if places.isEmpty then rest else rest.drop (places.length + 1)
    some (Binary64.ofDecimal false (digitsValue (whole ++ places)) (-(places.length : Int)), rest)

/-- The part that begins at the front of a text, where `atEdge` says that no word character stands before it:
a number and a word, or an article and a word. -/
def partAt? (atEdge : Bool) (s : List Char) : Option Part :=
  let ofRest (amount : Binary64) (rest : List Char) : Option Part :=
    let word := wordOf rest
    if word.isEmpty then none
    else some ⟨amount, String.ofList word, s.length - rest.length + word.length⟩
  match amountOf? s with
  | some (amount, rest) => ofRest amount (rest.dropWhile Text.isBlank)
  | none =>
    if !atEdge then none
    else
      let one := Binary64.ofRatio false 1 1
      match s with
      | 'a' :: 'n' :: c :: rest =>
        if Text.isBlank c then ofRest one (rest.dropWhile Text.isBlank) else none
      | 'a' :: c :: rest =>
        if Text.isBlank c then ofRest one (rest.dropWhile Text.isBlank) else none
      | _ => none

/-- The parts of a phrase from left to right; `skip` counts the characters still to pass of the last part. -/
def partsFrom (skip : Nat) (atEdge : Bool) : List Char → List Part
  | [] => []
  | c :: s =>
    let next := !Text.isWordChar c
    match skip with
    | skip + 1 => partsFrom skip next s
    | 0 =>
      match partAt? atEdge (c :: s) with
      | some part => part :: partsFrom (part.length - 1) next s
      | none => partsFrom 0 next s

/-- The parts of a phrase. -/
def parts (phrase : String) : List Part :=
  partsFrom 0 true phrase.toList

/-- The moment that lies all parts with a known unit before another, and whether there are such parts. -/
def subtractParts (m : Moment) : List Part → Except Fault (Moment × Bool)
  | [] => .ok (m, false)
  | part :: rest =>
    match unit? part.word with
    | none => subtractParts m rest
    | some unit => do
      let earlier ← subtract m part.amount unit
      let (result, _) ← subtractParts earlier rest
      .ok (result, true)

/-- The moment that a phrase names relative to the current time. -/
def relative? (text : String) (now : Moment) : Except Fault (Option Moment) :=
  let phrase := Text.lower (Text.strip text)
  let s := phrase.toList
  if phrase.isEmpty then .ok none
  else if phrase == "now" || Text.contains phrase "just now" then .ok (some now)
  else
    match dayTime? s with
    | some (back, hour, minute) => do
      let day ← if back = 0 then .ok now.midnight else now.midnight.shift (-(ticksPerDay : Int))
      some <$> day.shift (((hour % 24 * 60 + minute % 60) * 60000000 : Nat) : Int)
    | none =>
      if Text.contains phrase "yesterday" then some <$> now.midnight.shift (-(ticksPerDay : Int))
      else if Text.contains phrase "today" then .ok (some now.midnight)
      else
        match plusAmount? s with
        | some (ds, unit) =>
          if Numeral.maxDigits < ds.length then .error .notANumber
          else some <$> subtractWhole now (digitsValue ds) unit
        | none =>
          if !Text.contains phrase "ago" then .ok none
          else do
            let (result, any) ← subtractParts now (parts phrase)
            .ok (if any then some result else none)

end MetaSearch.Calendar
