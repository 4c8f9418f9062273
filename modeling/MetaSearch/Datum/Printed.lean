import MetaSearch.Datum.Basic
import MetaSearch.Number.Numeral
import MetaSearch.Number.Shortest
import MetaSearch.Text.Quoted

/-!
# Printed data

The text of a datum. Alone, a text prints as itself; inside a list or a map it prints in quotes.
-/

namespace MetaSearch.Datum

/-- The opening brace of a printed map. -/
def openBrace : String := "\x7b"

/-- The closing brace of a printed map. -/
def closeBrace : String := "\x7d"

/-- Parts in order with commas between them. -/
def withCommas (parts : List String) : String :=
  ", ".intercalate parts

/-- One byte inside quotes. -/
def byteText (b : UInt8) : List Char :=
  let c := Char.ofNat b.toNat
  if c == '\\' || c == '\'' then ['\\', c]
  else if c == '\n' then ['\\', 'n']
  else if c == '\r' then ['\\', 'r']
  else if c == '\t' then ['\\', 't']
  else if 32 ≤ b.toNat ∧ b.toNat < 127 then [c]
  else '\\' :: 'x' :: Text.hexDigits 2 b.toNat

/-- Bytes in quotes. -/
def bytesText (b : List UInt8) : String :=
  "b'" ++ String.ofList (b.flatMap byteText) ++ "'"

/-- The text of a whole number. -/
def intText (i : Int) : String :=
  if i < 0 then "-" ++ toString i.natAbs else toString i.natAbs

/-- The parts of a clock reading, seconds and microseconds only where they are not zero. -/
def clockFields (ticks : Nat) : List Nat :=
  let d := Date.ofDayNumber (ticks / ticksPerDay)
  let t := ticks % ticksPerDay
  let s := t / 1000000
  let base := [d.year, d.month, d.day, s / 3600, s / 60 % 60]
  if t % 1000000 ≠ 0 then base ++ [s % 60, t % 1000000]
  else if s % 60 ≠ 0 then base ++ [s % 60]
  else base

mutual

/-- The form of a datum inside a list or a map. -/
def quoted : Datum → String
  | null => "None"
  | bool b => if b then "True" else "False"
  | int i => intText i
  | float x => x.text
  | text s => Text.quoted s
  | list xs => "[" ++ withCommas (quotedAll xs) ++ "]"
  | map entries => openBrace ++ withCommas (quotedEntries entries) ++ closeBrace
  | date d => "datetime.date(" ++ withCommas ([d.year, d.month, d.day].map toString) ++ ")"
  | stamp r =>
    let zone := match r.offset with
      | none => []
      | some 0 => ["tzinfo=datetime.timezone.utc"]
      | some o =>
        let seconds := o.fdiv 1000000
        let days := seconds.fdiv 86400
        let part (name : String) (n : Int) : List String :=
          if n = 0 then [] else [name ++ "=" ++ intText n]
        ["tzinfo=datetime.timezone(datetime.timedelta(" ++
          withCommas (part "days" days ++ part "seconds" (seconds.fmod 86400)) ++ "))"]
    "datetime.datetime(" ++ withCommas ((clockFields r.ticks).map toString ++ zone) ++ ")"
  | bytes b => bytesText b

/-- The forms of the items of a list. -/
def quotedAll : List Datum → List String
  | [] => []
  | x :: xs => quoted x :: quotedAll xs

/-- The forms of the entries of a map. -/
def quotedEntries : List (Datum × Datum) → List String
  | [] => []
  | (k, v) :: rest => (quoted k ++ ": " ++ quoted v) :: quotedEntries rest

end

mutual

/-- Whether no number in a datum has more digits than may be written. -/
def isWritable : Datum → Bool
  | int i => (Nat.toDigits 10 i.natAbs).length ≤ Numeral.maxDigits
  | list xs => areWritable xs
  | map entries => areEntriesWritable entries
  | _ => true

/-- Whether the items of a list may be written. -/
def areWritable : List Datum → Bool
  | [] => true
  | x :: xs => isWritable x && areWritable xs

/-- Whether the entries of a map may be written. -/
def areEntriesWritable : List (Datum × Datum) → Bool
  | [] => true
  | (k, v) :: rest => isWritable k && isWritable v && areEntriesWritable rest

end

/-- The text of a datum on its own. -/
def printed : Datum → String
  | text s => s
  | date d => d.text
  | stamp r => r.text " "
  | other => quoted other

end MetaSearch.Datum
