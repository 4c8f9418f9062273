import MetaSearch.Datum.Basic
import MetaSearch.Number.Numeral
import MetaSearch.Number.Shortest
import MetaSearch.Text.Quoted

/-!
# JSON

Reading and writing data as JSON. A number without fraction and exponent is a whole number of any size; `NaN`
and the infinities are read too. Of several equal keys in an object the last value counts, at the place of the
first. Written texts keep to ASCII.
-/

namespace MetaSearch.Json

/-- The text after spaces, tabs and line ends. -/
def skipSpace (s : List Char) : List Char :=
  s.dropWhile fun c => c == ' ' || c == '\t' || c == '\n' || c == '\r'

/-- The value of a hexadecimal digit. -/
def hexValue? (c : Char) : Option Nat :=
  if c.isDigit then some (c.toNat - 48)
  else if 'a' ≤ c ∧ c ≤ 'f' then some (c.toNat - 87)
  else if 'A' ≤ c ∧ c ≤ 'F' then some (c.toNat - 55)
  else none

/-- The number spelled by four hexadecimal digits, and the rest. -/
def hex4? : List Char → Option (Nat × List Char)
  | a :: b :: c :: d :: rest => do
    let a ← hexValue? a
    let b ← hexValue? b
    let c ← hexValue? c
    let d ← hexValue? d
    some (((a * 16 + b) * 16 + c) * 16 + d, rest)
  | _ => none

/-- The character of a code unit, half of a pair standing for the replacement character. -/
def unitChar (n : Nat) : Char :=
  if 0xD800 ≤ n ∧ n < 0xE000 then '\uFFFD' else Char.ofNat n

/-- The characters of a text up to its closing quote, and the rest; `fuel` bounds their number. -/
def textBody : (fuel : Nat) → List Char → Option (List Char × List Char)
  | 0, _ => none
  | fuel + 1, s =>
    let next (c : Char) (rest : List Char) : Option (List Char × List Char) :=
      (textBody fuel rest).map fun (cs, rest) => (c :: cs, rest)
    match s with
    | [] => none
    | '"' :: rest => some ([], rest)
    | '\\' :: 'u' :: rest =>
      match hex4? rest with
      | none => none
      | some (n, rest) =>
        if 0xD800 ≤ n ∧ n < 0xDC00 then
          match rest with
          | '\\' :: 'u' :: more =>
            match hex4? more with
            | none => none
            | some (m, more) =>
              if 0xDC00 ≤ m ∧ m < 0xE000 then
                next (Char.ofNat (0x10000 + (n - 0xD800) * 0x400 + (m - 0xDC00))) more
              else next (unitChar n) rest
          | _ => next (unitChar n) rest
        else next (unitChar n) rest
    | '\\' :: c :: rest =>
      match c with
      | '"' | '\\' | '/' => next c rest
      | 'b' => next '\x08' rest
      | 'f' => next '\x0c' rest
      | 'n' => next '\n' rest
      | 'r' => next '\r' rest
      | 't' => next '\t' rest
      | _ => none
    | c :: rest => if c.toNat < 32 ∨ c == '\\' then none else next c rest

/-- The number at the front of a text, and the rest. -/
def number? (s : List Char) : Option (Datum × List Char) :=
  let negative := s.head? == some '-'
  let body := if negative then s.drop 1 else s
  let whole := body.takeWhile Char.isDigit
  let whole := if whole.head? == some '0' then ['0'] else whole
  if whole.isEmpty then none
  else
    let rest := body.drop whole.length
    let places := match rest with
      | '.' :: r => r.takeWhile Char.isDigit
      | _ => []
    let afterPlaces := if places.isEmpty then rest else rest.drop (places.length + 1)
    let exponent : Option (Int × List Char) := match afterPlaces with
      | c :: r =>
        if c == 'e' || c == 'E' then
          let (minus, r) := Numeral.sign r
          let ds := r.takeWhile Char.isDigit
          if ds.isEmpty then none
          else
            let n : Int := Numeral.ofDigits (ds.filterMap Text.decimalValue?)
            some (if minus then -n else n, r.drop ds.length)
        else none
      | [] => none
    let digits := Numeral.ofDigits ((whole ++ places).filterMap Text.decimalValue?)
    match exponent with
    | some (e, rest) =>
      some (.float (.ofDecimal negative digits (e - (places.length : Int))), rest)
    | none =>
      if places.isEmpty then
        if Numeral.maxDigits < whole.length then none
        else some (.int (if negative then -(digits : Int) else digits), rest)
      else some (.float (.ofDecimal negative digits (-(places.length : Int))), afterPlaces)

/-- The words that stand for a value. -/
def words : List (String × Datum) :=
  [("null", .null), ("true", .bool true), ("false", .bool false), ("NaN", .float .nan),
   ("Infinity", .float (.infinite false)), ("-Infinity", .float (.infinite true))]

mutual

/-- The value at the front of a text, and the rest. -/
def value? : (fuel : Nat) → List Char → Option (Datum × List Char)
  | 0, _ => none
  | fuel + 1, s =>
    match s with
    | '"' :: rest => (textBody (rest.length + 1) rest).map fun (cs, rest) => (.text (String.ofList cs), rest)
    | '[' :: rest =>
      match skipSpace rest with
      | ']' :: rest => some (.list [], rest)
      | rest => (items? fuel rest).map fun (xs, rest) => (.list xs, rest)
    | '\x7b' :: rest =>
      match skipSpace rest with
      | '\x7d' :: rest => some (.map [], rest)
      | rest => (members? fuel [] rest).map fun (entries, rest) => (.map entries, rest)
    | _ =>
      match words.findSome? fun (word, d) => (Text.after? word.toList s).map (d, ·) with
      | some found => some found
      | none => number? s

/-- The items of a list up to its closing bracket, and the rest. -/
def items? : (fuel : Nat) → List Char → Option (List Datum × List Char)
  | 0, _ => none
  | fuel + 1, s => do
    let (x, rest) ← value? fuel (skipSpace s)
    match skipSpace rest with
    | ',' :: rest =>
      let (xs, rest) ← items? fuel rest
      some (x :: xs, rest)
    | ']' :: rest => some ([x], rest)
    | _ => none

/-- The entries of an object up to its closing brace after those of `sofar`, and the rest. -/
def members? : (fuel : Nat) → List (Datum × Datum) → List Char → Option (List (Datum × Datum) × List Char)
  | 0, _, _ => none
  | fuel + 1, sofar, s => do
    match skipSpace s with
    | '"' :: rest =>
      let (name, rest) ← textBody (rest.length + 1) rest
      match skipSpace rest with
      | ':' :: rest =>
        let (v, rest) ← value? fuel (skipSpace rest)
        let entries := Datum.insert (.text (String.ofList name)) v sofar
        match skipSpace rest with
        | ',' :: rest => members? fuel entries rest
        | '\x7d' :: rest => some (entries, rest)
        | _ => none
      | _ => none
    | _ => none

end

/-- The value that a whole text spells. -/
def parse? (text : String) : Option Datum := do
  let s := skipSpace text.toList
  let (d, rest) ← value? (2 * s.length + 2) s
  if (skipSpace rest).isEmpty then some d else none

/-- One character inside quotes. -/
def escaped (c : Char) : List Char :=
  if c == '"' || c == '\\' then ['\\', c]
  else if c == '\n' then ['\\', 'n']
  else if c == '\r' then ['\\', 'r']
  else if c == '\t' then ['\\', 't']
  else if 32 ≤ c.toNat ∧ c.toNat < 127 then [c]
  else if c.toNat < 0x10000 then '\\' :: 'u' :: Text.hexDigits 4 c.toNat
  else
    let n := c.toNat - 0x10000
    '\\' :: 'u' :: Text.hexDigits 4 (0xD800 + n / 0x400) ++
      '\\' :: 'u' :: Text.hexDigits 4 (0xDC00 + n % 0x400)

/-- A text in quotes. -/
def textForm (s : String) : String :=
  String.ofList ('"' :: s.toList.flatMap escaped ++ ['"'])

/-- What stands between the parts of lists and maps. -/
structure Spacing where
  comma : String := ", "
  colon : String := ": "

/-- No space between parts. -/
def Spacing.tight : Spacing := ⟨",", ":"⟩

mutual

/-- A datum written as JSON; keys and values that JSON has no form for are written as their texts. -/
def renderWith (sp : Spacing) : Datum → String
  | .null => "null"
  | .bool b => if b then "true" else "false"
  | .int i => toString i
  | .float .nan => "NaN"
  | .float (.infinite s) => if s then "-Infinity" else "Infinity"
  | .float x => x.text
  | .text s => textForm s
  | .list xs => "[" ++ sp.comma.intercalate (renderAll sp xs) ++ "]"
  | .map entries => "\x7b" ++ sp.comma.intercalate (renderEntries sp entries) ++ "\x7d"
  | .date d => textForm d.text
  | .stamp r => textForm (r.text " ")
  | .bytes _ => "null"

/-- The items of a list. -/
def renderAll (sp : Spacing) : List Datum → List String
  | [] => []
  | x :: xs => renderWith sp x :: renderAll sp xs

/-- The entries of a map. -/
def renderEntries (sp : Spacing) : List (Datum × Datum) → List String
  | [] => []
  | (k, v) :: rest =>
    let key := match k with
      | .text s => textForm s
      | k => "\"" ++ renderWith sp k ++ "\""
    (key ++ sp.colon ++ renderWith sp v) :: renderEntries sp rest

end

/-- A datum written as JSON. -/
def render (d : Datum) : String := renderWith {} d

end MetaSearch.Json
