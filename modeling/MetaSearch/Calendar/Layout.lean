import MetaSearch.Calendar.Moment
import MetaSearch.Number.Numeral
import MetaSearch.Text.Blank
import MetaSearch.Text.Letter

/-!
# Date layouts

A layout shows how dates are written by writing a reference date: `Jan 2, 2006 15:04`. It is cut into pieces,
each a date field or a literal character, where the first token in the table that stands at a place wins.
Reading a text by a layout tries the forms of each field in a fixed order and takes the first way to read all
pieces; the text must then be used up.
-/

namespace MetaSearch.Layout

/-- A field of a date. -/
inductive Field where
  | year | shortYear | month | monthName | shortMonth | day | weekdayName | shortWeekday
  | hour | halfDayHour | minute | second | half | offset | zone
  deriving DecidableEq, Repr

/-- A field or a literal character. -/
inductive Piece where
  | field (f : Field)
  | literal (c : Char)
  deriving DecidableEq, Repr

/-- The tokens of the reference date in the order in which they are tried. -/
def tokens : List (String × Field) :=
  [("January", .monthName), ("Monday", .weekdayName), ("2006", .year), ("Z07:00", .offset),
   ("-07:00", .offset), ("-0700", .offset), ("Jan", .shortMonth), ("Mon", .shortWeekday), ("MST", .zone),
   ("_2", .day), ("01", .month), ("02", .day), ("03", .halfDayHour), ("04", .minute), ("05", .second),
   ("06", .shortYear), ("15", .hour), ("PM", .half), ("pm", .half), ("1", .month), ("2", .day),
   ("3", .halfDayHour), ("4", .minute), ("5", .second)]

/-- The token that stands at the front of a text: its field and its length. -/
def tokenAt? (s : List Char) : Option (Field × Nat) :=
  tokens.findSome? fun (token, f) =>
    if Text.begins token.toList s then some (f, token.length) else none

/-- The pieces of a layout; `skip` counts the characters still to pass of the last token. -/
def piecesFrom (skip : Nat) : List Char → List Piece
  | [] => []
  | c :: s =>
    match skip with
    | skip + 1 => piecesFrom skip s
    | 0 =>
      match tokenAt? (c :: s) with
      | some (f, n) => .field f :: piecesFrom (n - 1) s
      | none => .literal c :: piecesFrom 0 s

/-- The pieces of a layout. -/
def pieces (layout : String) : List Piece :=
  piecesFrom 0 layout.toList

/-- The letter that names a field in a directive. -/
def Field.letter : Field → Char
  | .year => 'Y' | .shortYear => 'y' | .month => 'm' | .monthName => 'B' | .shortMonth => 'b'
  | .day => 'd' | .weekdayName => 'A' | .shortWeekday => 'a' | .hour => 'H' | .halfDayHour => 'I'
  | .minute => 'M' | .second => 'S' | .half => 'p' | .offset => 'z' | .zone => 'Z'

/-- The directive of a piece: a percent sign and the field's letter; a literal percent sign is doubled. -/
def Piece.directive : Piece → List Char
  | .field f => ['%', f.letter]
  | .literal '%' => ['%', '%']
  | .literal c => [c]

/-- The layout written with directives. -/
def directives (layout : String) : String :=
  String.ofList ((pieces layout).flatMap Piece.directive)

/-- The names of the months. -/
def monthNames : List String :=
  ["january", "february", "march", "april", "may", "june", "july", "august", "september", "october",
   "november", "december"]

/-- The short names of the months. -/
def shortMonthNames : List String :=
  ["jan", "feb", "mar", "apr", "may", "jun", "jul", "aug", "sep", "oct", "nov", "dec"]

/-- The names of the days of the week. -/
def weekdayNames : List String :=
  ["monday", "tuesday", "wednesday", "thursday", "friday", "saturday", "sunday"]

/-- The short names of the days of the week. -/
def shortWeekdayNames : List String :=
  ["mon", "tue", "wed", "thu", "fri", "sat", "sun"]

/-- A class of characters that one place of a field's form may hold. -/
abbrev Place := Char → Bool

/-- Exactly the character `c`. -/
def exactly (c : Char) : Place := (· == c)

/-- A decimal digit of any script. -/
def digit : Place := Text.isDecimal

/-- A digit from `low` to `high`. -/
def between (low high : Char) : Place := fun c => low ≤ c && c ≤ high

/-- The characters of a name, whatever their case. -/
def nameForm (name : String) : List Place :=
  name.toList.map Text.sameLetter

/-- The forms of an offset: a sign, hours and minutes, then perhaps seconds and perhaps a fraction, colons
being optional; or `Z`. -/
def offsetForms : List (List Place) :=
  let sign : Place := fun c => c == '+' || c == '-'
  let colon : List (List Place) := [[exactly ':'], []]
  let sixty : List Place := [between '0' '5', digit]
  let fractions : List (List Place) :=
    [6, 5, 4, 3, 2, 1].map (fun n => exactly '.' :: List.replicate n digit) ++ [[]]
  let seconds : List (List Place) :=
    (colon.flatMap fun c => fractions.map fun f => c ++ sixty ++ f) ++ [[]]
  (colon.flatMap fun c => seconds.map fun s => sign :: digit :: digit :: c ++ sixty ++ s) ++
    [[exactly 'Z']]

/-- The forms of a field in the order in which they are tried. -/
def Field.forms : Field → List (List Place)
  | .year => [[digit, digit, digit, digit]]
  | .shortYear => [[digit, digit]]
  | .month => [[exactly '1', between '0' '2'], [exactly '0', between '1' '9'], [between '1' '9']]
  | .monthName => monthNames.map nameForm
  | .shortMonth => shortMonthNames.map nameForm
  | .day =>
    [[exactly '3', between '0' '1'], [between '1' '2', digit], [exactly '0', between '1' '9'],
     [between '1' '9'], [exactly ' ', between '1' '9']]
  | .weekdayName => weekdayNames.map nameForm
  | .shortWeekday => shortWeekdayNames.map nameForm
  | .hour => [[exactly '2', between '0' '3'], [between '0' '1', digit], [digit]]
  | .halfDayHour => [[exactly '1', between '0' '2'], [exactly '0', between '1' '9'], [between '1' '9']]
  | .minute => [[between '0' '5', digit], [digit]]
  | .second => [[exactly '6', between '0' '1'], [between '0' '5', digit], [digit]]
  | .half => ["am", "pm"].map nameForm
  | .offset => offsetForms
  | .zone => ["utc", "gmt"].map nameForm

/-- The rest of a text whose front has the given form. -/
def afterForm? : List Place → List Char → Option (List Char)
  | [], s => some s
  | p :: ps, c :: s => if p c then afterForm? ps s else none
  | _ :: _, [] => none

/-- An element that a text is read by: a field, a literal character, or blanks. -/
inductive Element where
  | field (f : Field)
  | literal (c : Char)
  | blanks
  deriving DecidableEq, Repr

/-- The elements of a layout: a run of blanks in it stands for any run of blanks. -/
def elements : List Piece → List Element
  | [] => []
  | .field f :: ps => .field f :: elements ps
  | .literal c :: ps =>
    if Text.isBlank c then
      match elements ps with
      | .blanks :: es => .blanks :: es
      | es => .blanks :: es
    else .literal c :: elements ps

/-- The ways in which an element reads the front of a text, in order of preference: what it took and the
rest. -/
def Element.readings (s : List Char) : Element → List (List Char × List Char)
  | .field f =>
    f.forms.filterMap fun form => (afterForm? form s).map fun rest => (s.take form.length, rest)
  | .literal c =>
    match s with
    | a :: rest => if Text.sameLetter c a then [([a], rest)] else []
    | [] => []
  | .blanks =>
    let n := (s.takeWhile Text.isBlank).length
    (List.range n).map fun i => (s.take (n - i), s.drop (n - i))

/-- The first way in which all elements read the front of a text: each field with what it took, and the
rest. -/
def readAll : List Element → List Char → Option (List (Field × List Char) × List Char)
  | [], s => some ([], s)
  | e :: es, s =>
    (e.readings s).findSome? fun (taken, rest) =>
      (readAll es rest).map fun (fields, rest) =>
        match e with
        | .field f => ((f, taken) :: fields, rest)
        | _ => (fields, rest)

/-- What the fields read so far say. -/
structure Reckoning where
  year : Option Nat := none
  month : Nat := 1
  day : Nat := 1
  hour : Nat := 0
  minute : Nat := 0
  second : Nat := 0
  offset : Option Int := none

/-- The number that digits of any script spell. -/
def number (s : List Char) : Nat :=
  Numeral.ofDigits (s.filterMap Text.decimalValue?)

/-- The position of a name in a list, whatever its case. -/
def position? (names : List String) (s : List Char) : Option Nat :=
  names.idxOf? (Text.lower (String.ofList s))

/-- The offset in microseconds that a written offset stands for: hours and minutes with a colon go with
seconds after a colon, and only those. -/
def offset? (s : List Char) : Option Int :=
  match s with
  | ['Z'] => some 0
  | sign :: body =>
    let digits : Option (List Char) :=
      match body with
      | a :: b :: ':' :: c :: d :: rest =>
        match rest with
        | [] => some [a, b, c, d]
        | ':' :: rest => some (a :: b :: c :: d :: rest)
        | _ => none
      | _ :: _ :: _ :: _ :: ':' :: _ => none
      | other => some other
    digits.map fun ds =>
      let whole := ds.takeWhile (· != '.')
      let places := (ds.dropWhile (· != '.')).drop 1
      let seconds := (number (whole.take 2) * 60 + number ((whole.drop 2).take 2)) * 60 +
        number ((whole.drop 4).take 2)
      let micros := number places * Nat.pow 10 (6 - places.length)
      let n : Int := seconds * 1000000 + micros
      if sign == '-' then -n else n
  | [] => none

/-- The reckoning after one more field; an hour of the half day takes `half`, the half of the day named
anywhere in the text. -/
def Reckoning.add (half : Option Nat) (r : Reckoning) : Field × List Char → Option Reckoning
  | (.year, s) => some { r with year := some (number s) }
  | (.shortYear, s) =>
    some { r with year := some (if number s ≤ 68 then number s + 2000 else number s + 1900) }
  | (.month, s) => some { r with month := number s }
  | (.monthName, s) => (position? monthNames s).map fun i => { r with month := i + 1 }
  | (.shortMonth, s) => (position? shortMonthNames s).map fun i => { r with month := i + 1 }
  | (.day, s) => some { r with day := number s }
  | (.weekdayName, s) => (position? weekdayNames s).map fun _ => r
  | (.shortWeekday, s) => (position? shortWeekdayNames s).map fun _ => r
  | (.hour, s) => some { r with hour := number s }
  | (.halfDayHour, s) =>
    let h := number s
    some { r with hour := match half with
      | some 1 => if h = 12 then 12 else h + 12
      | _ => if h = 12 then 0 else h }
  | (.minute, s) => some { r with minute := number s }
  | (.second, s) => some { r with second := number s }
  | (.half, _) => some r
  | (.offset, s) => (offset? s).map fun o => { r with offset := some o }
  | (.zone, _) => some r

/-- Whether some field occurs twice. -/
def repeats (ps : List Piece) : Bool :=
  let fields := ps.filterMap fun | .field f => some f | .literal _ => none
  fields.eraseDups.length < fields.length

/-- Whether a layout names the year. -/
def namesYear (ps : List Piece) : Bool :=
  ps.any fun p => p == .field .year || p == .field .shortYear

/-- The clock reading that a text spells in a layout. A layout without a year reads in the year 1900, which
has no 29 February; a layout that names a field twice is a fault. -/
def reading? (ps : List Piece) (text : String) : Except Fault (Option Reading) :=
  if repeats ps then .error .repeatedField
  else
    .ok do
      let (fields, rest) ← readAll (elements ps) text.toList
      if !rest.isEmpty then none
      else
        let half := (fields.find? (·.1 == .half)).bind fun (_, s) => position? ["am", "pm"] s
        let r ← fields.foldlM (Reckoning.add half) {}
        if 59 < r.second || (r.offset.map fun o => decide ((ticksPerDay : Int) ≤ o.natAbs)).getD false then none
        else
          Reading.ofDate? ⟨r.year.getD 1900, r.month, r.day⟩
            (((r.hour * 60 + r.minute) * 60 + r.second) * 1000000) r.offset

end MetaSearch.Layout
