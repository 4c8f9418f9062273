import MetaSearch.Datum.Printed
import MetaSearch.Fault
import MetaSearch.Number.Numeral
import MetaSearch.Number.Shortest
import MetaSearch.Text.Letter

/-!
# Sizes and counts

Sites give sizes as numbers of bytes or as texts with a unit, each unit 1024 of the one before. A comma groups
digits, except where it alone stands before the last one or two digits: there it is a decimal point. `read` is
the number of bytes, `text` the size as people read it.
-/

namespace MetaSearch.Size

/-- The letters of the units above the byte, in ascending order. -/
def unitLetters : List Char := ['K', 'M', 'G', 'T', 'P']

/-- The units from the byte upwards. -/
def units : List String := ["B", "KB", "MB", "GB", "TB", "PB"]

/-- Whether the text goes on without an ASCII capital. -/
def endsUnit (s : List Char) : Bool :=
  !(s.head?.any fun c => 'A' ≤ c && c ≤ 'Z')

/-- The power of 1024 of the unit at the start of a text, where a unit ends there. -/
def unitAt? (s : List Char) : Option Nat :=
  match s with
  | 'B' :: rest => if endsUnit rest then some 0 else none
  | letter :: rest =>
    match unitLetters.findIdx? (· == letter) with
    | none => none
    | some i =>
      match rest with
      | 'B' :: rest => if endsUnit rest then some (i + 1) else none
      | 'I' :: 'B' :: rest => if endsUnit rest then some (i + 1) else none
      | _ => none
  | [] => none

/-- Whether a character may stand inside a written number. -/
def isNumberPart (c : Char) : Bool :=
  Text.isDecimal c || c == '.' || c == ','

/-- The number that begins a text, with the power of 1024 of the unit behind it; only blanks may part them. -/
def amountAt? : List Char → Option (List Char × Nat)
  | [] => none
  | c :: s =>
    if Text.isDecimal c then
      let more := s.takeWhile isNumberPart
      let rest := s.drop more.length
      (unitAt? (rest.dropWhile Text.isBlank)).map (c :: more, ·)
    else none

/-- The first amount in a text. -/
def firstAmount? : List Char → Option (List Char × Nat)
  | [] => none
  | c :: s => (amountAt? (c :: s)).orElse fun _ => firstAmount? s

/-- Whether a number has its only comma before its last one or two digits. -/
def hasDecimalComma (s : List Char) : Bool :=
  match Text.cut? [','] s with
  | some (whole, fraction) =>
    !whole.isEmpty && whole.all Text.isDecimal && fraction.all Text.isDecimal &&
      (fraction.length == 1 || fraction.length == 2)
  | none => false

/-- The value of a written number. -/
def value? (s : List Char) : Option Binary64 :=
  Numeral.float? (String.ofList
    (if !s.contains '.' && hasDecimalComma s then s.map fun c => if c = ',' then '.' else c
     else s.filter (· != ',')))

/-- A whole number cut to be no less than zero. -/
def clamped : Datum → Except Fault Nat
  | .bool _ => .ok 0
  | .int i => .ok i.toNat
  | .float .nan => .error .notANumber
  | .float x => (x.truncate?).elim (.error .infiniteNumber) fun i => .ok i.toNat
  | _ => .ok 0

/-- The number of bytes that a text gives; zero where it gives none. -/
def readText (text : String) : Except Fault Nat :=
  let text := Text.upper (Text.strip text)
  if text.isEmpty then .ok 0
  else if Text.isDigitText text then (Numeral.int? text).elim (.error .notANumber) fun i => .ok i.toNat
  else
    match firstAmount? text.toList with
    | none => .ok 0
    | some (number, power) =>
      match value? number with
      | none => .ok 0
      | some x => ((x.mulNat (Nat.pow 1024 power)).truncate?).elim (.error .infiniteNumber) fun i => .ok i.toNat

/-- The number of bytes that a size stands for; zero where it stands for none. -/
def read : Datum → Except Fault Nat
  | .null => .ok 0
  | .bool b => clamped (.bool b)
  | .int i => clamped (.int i)
  | .float x => clamped (.float x)
  | other => readText other.printed

/-- A value divided by 1024 until it is below that or the units run out, with the unit it is then in. -/
def inUnits (x : Binary64) : List String → Binary64 × String
  | [] => (x, "")
  | [unit] => (x, unit)
  | unit :: rest => if x.lt ((Binary64.ofInt? 1024).getD .nan) then (x, unit) else inUnits (x.divNat 1024) rest

/-- A size in the largest unit that it fills, with two decimal places. -/
def text (size : Int) : Except Fault String :=
  if size ≤ 0 then .ok "0 B"
  else
    match Binary64.ofInt? size with
    | none => .error .infiniteNumber
    | some x =>
      let (value, unit) := inUnits x units
      .ok (value.fixed 2 ++ " " ++ unit)

end MetaSearch.Size

/-! ## Counts

Numbers of seeders, leechers and downloads as sites write them. Everything but the digits is passed over; a
marker for nothing, or a sign in front, counts as zero. Numbers of peers beyond a ceiling are taken for made up.
-/

namespace MetaSearch.Count

/-- The largest believable number of peers. -/
def peerCeiling : Nat := 5000000

/-- The texts that stand for no count. -/
def emptyMarkers : List String := ["", "-", "n/a", "na", "none", "null", "?"]

/-- The number that the ASCII digits of a text spell. -/
def readText (text : String) : Except Fault Nat :=
  let text := Text.strip text
  if emptyMarkers.contains (Text.lower text) || Text.startsWith text "-" then .ok 0
  else
    let digits := text.toList.filter Char.isDigit
    if digits.isEmpty then .ok 0
    else (Numeral.int? (String.ofList digits)).elim (.error .notANumber) fun i => .ok i.toNat

/-- The count that a value stands for. -/
def read : Datum → Except Fault Nat
  | .null => .ok 0
  | .bool b => Size.clamped (.bool b)
  | .int i => Size.clamped (.int i)
  | .float x => Size.clamped (.float x)
  | other => readText other.printed

/-- A number of peers, or zero where it is not believable. -/
def believable (count : Int) : Int :=
  if 0 ≤ count ∧ count ≤ peerCeiling then count else 0

theorem believable_nonneg (count : Int) : 0 ≤ believable count := by
  unfold believable; split <;> omega

theorem believable_le (count : Int) : believable count ≤ peerCeiling := by
  unfold believable
  split
  · omega
  · simp [peerCeiling]

end MetaSearch.Count
