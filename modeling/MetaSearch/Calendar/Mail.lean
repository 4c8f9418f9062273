import MetaSearch.Calendar.Moment
import MetaSearch.Number.Numeral

/-!
# Reading dates of mail headers

A day of the month, the name of a month, a year, a time of day and a zone, as mail headers write them, with the
liberties that mail programs take: the day of the week is passed over, day and month or year and time may change
places, years have two or four digits, and points may stand for colons.
-/

namespace MetaSearch.Mail

/-- The names of the months, short ones first. -/
def monthNames : List String :=
  ["jan", "feb", "mar", "apr", "may", "jun", "jul", "aug", "sep", "oct", "nov", "dec",
   "january", "february", "march", "april", "may", "june", "july", "august", "september", "october",
   "november", "december"]

/-- The short names of the days of the week. -/
def dayNames : List String :=
  ["mon", "tue", "wed", "thu", "fri", "sat", "sun"]

/-- The zones known by name, as hundreds of hours. -/
def zones : List (String × Int) :=
  [("UT", 0), ("UTC", 0), ("GMT", 0), ("Z", 0), ("AST", -400), ("ADT", -300), ("EST", -500),
   ("EDT", -400), ("CST", -600), ("CDT", -500), ("MST", -700), ("MDT", -600), ("PST", -800),
   ("PDT", -700)]

/-- The number of the month with a given name. -/
def month? (name : String) : Option Nat :=
  (monthNames.idxOf? name).map fun i => i % 12 + 1

/-- The text without a comma at its end. -/
def withoutComma (s : String) : String :=
  if Text.endsWith s "," then Text.take (s.length - 1) s else s

/-- The offset of a zone in seconds; absent for an unknown zone and for one that disclaims knowledge. -/
def zoneOffset? (zone : String) : Option Int :=
  let zone := Text.upper zone
  let hundreds := match zones.find? (·.1 == zone) with
    | some (_, n) => some n
    | none =>
      match Numeral.int? zone with
      | some 0 => if Text.startsWith zone "-" then none else some 0
      | other => other
  hundreds.map fun n =>
    let seconds : Int := (n.natAbs / 100 * 3600 + n.natAbs % 100 * 60 : Nat)
    if n < 0 then -seconds else seconds

/-- The words of a date: day, month, year, time and zone, in the order written. -/
def parts? (text : String) : Option (String × String × String × String × String) :=
  match Text.words text with
  | [] => none
  | first :: rest =>
    let words :=
      if Text.endsWith first "," || dayNames.contains (Text.lower first) then rest
      else
        match Text.cutAtLast? "," first with
        | some (_, tail) => tail :: rest
        | none => first :: rest
    let words := match words with
      | [a, b, c] =>
        match Text.split "-" a with
        | [x, y, z] => [x, y, z, b, c]
        | _ => [a, b, c]
      | ws => ws
    match words with
    | [a, b, c, last] =>
      let sign := if Text.contains last "+" then "+" else "-"
      match Text.cutAt? sign last with
      | some (front, tail) =>
        if front.isEmpty then some (a, b, c, last, "") else some (a, b, c, front, sign ++ tail)
      | none => some (a, b, c, last, "")
    | a :: b :: c :: d :: e :: _ => some (a, b, c, d, e)
    | _ => none

/-- The hour, minute and second of a time of day with colons or points. -/
def clock? (time : String) : Option (String × String × String) :=
  match Text.split ":" time with
  | [h, m] => some (h, m, "0")
  | [h, m, s] => some (h, m, s)
  | [_] =>
    match Text.split "." time with
    | [h, m] => some (h, m, "0")
    | [h, m, s] => some (h, m, s)
    | _ => none
  | _ => none

/-- A field beyond any calendar's machine range. -/
def tooLarge (n : Int) : Bool := n < -2147483648 || 2147483647 < n

/-- The clock reading that a text spells; absent where it spells none, a fault where its numbers are beyond
any calendar. -/
def reading? (text : String) : Except Fault (Option Reading) :=
  let fields : Option (Int × Nat × Int × Int × Int × Int × Option Int) := do
    let (day, month, year, time, zone) ← parts? text
    if day.isEmpty || month.isEmpty || year.isEmpty then none
    else
      let (day, m) ← match month? (Text.lower month) with
        | some m => some (day, m)
        | none => (month? (Text.lower day)).map fun m => (month, m)
      let day := withoutComma day
      let (year, time) :=
        if Text.contains (Text.drop 1 year) ":" && !Text.startsWith year ":" then (time, year) else (year, time)
      let year := withoutComma year
      if year.isEmpty || time.isEmpty then none
      else
        let (year, zone) :=
          if (year.toList.head?.map Text.isDigitSign).getD false then (year, zone) else (zone, year)
        let (h, mi, s) ← clock? (withoutComma time)
        let y ← Numeral.int? year
        let d ← Numeral.int? day
        let h ← Numeral.int? h
        let mi ← Numeral.int? mi
        let s ← Numeral.int? s
        let y := if y < 100 then (if 68 < y then y + 1900 else y + 2000) else y
        some (y, m, d, h, mi, s, zoneOffset? zone)
  match fields with
  | none => .ok none
  | some (y, m, d, h, mi, s, offset) =>
    let inDay : Bool := match offset with
      | some o => -86400 < o && o < 86400
      | none => true
    let farZone : Bool := match offset with
      | some o => 999999999 * 86400 < o.natAbs
      | none => false
    if farZone then .error .outsideCalendar
    else if !inDay then .ok none
    else if tooLarge y || tooLarge d || tooLarge h || tooLarge mi || tooLarge s then .error .outsideCalendar
    else if y < 1 || d < 1 || h < 0 || 23 < h || mi < 0 || 59 < mi || s < 0 || 59 < s then .ok none
    else
      .ok (Reading.ofDate? ⟨y.toNat, m, d.toNat⟩ (((h * 60 + mi) * 60 + s).toNat * 1000000)
        (offset.map (· * 1000000)))

end MetaSearch.Mail
