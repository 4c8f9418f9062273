import MetaSearch.Datum.Basic
import MetaSearch.Fault
import MetaSearch.Number.Numeral
import MetaSearch.Text.Basic

/-!
# What plain scalars stand for

A plain scalar may spell a truth value, a number, a time or nothing; what spells none of them is a text. Whole
numbers may be written to base 2, 8, 10, 16 or 60, and underscores may stand among their digits.
-/

namespace MetaSearch.Yaml

/-- The kinds of scalars that plain texts stand for. -/
inductive PlainKind where
  | truth | float | whole | merge | null | stamp | default | text
  deriving DecidableEq, Repr, Inhabited

namespace Plain

/-- Words for true and for false in small letters. -/
def truthWords : List (String × Bool) :=
  [("yes", true), ("no", false), ("true", true), ("false", false), ("on", true), ("off", false)]

/-- Whether a text is a word in small letters, with a capital, or in capitals. -/
def isWord (word text : String) : Bool :=
  let capital := match word.toList with
    | [] => ""
    | c :: rest => String.ofList (c.toUpper :: rest)
  text == word || text == capital || text == String.ofList (word.toList.map Char.toUpper)

/-- Whether a character is a digit or an underscore. -/
def isLoose (c : Char) : Bool := c.isDigit || c == '_'

/-- A text without a sign in front. -/
def unsigned : List Char → List Char
  | '-' :: s => s
  | '+' :: s => s
  | s => s

/-- Whether a text is digits and underscores behind a digit of a class. -/
def isNumeral (first : Char → Bool) : List Char → Bool
  | [] => false
  | c :: s => first c && s.all isLoose

/-- Whether a text is one or two digits below 60. -/
def isSixtieth : List Char → Bool
  | [c] => c.isDigit
  | [c, d] => c.isDigit && c.toNat < '6'.toNat && d.isDigit
  | _ => false

/-- Whether a character other than a zero is a digit. -/
def isLeading (c : Char) : Bool := c.isDigit && c != '0'

/-- Whether a text spells a whole number. -/
def isWhole (s : List Char) : Bool :=
  match unsigned s with
  | [] => false
  | '0' :: [] => true
  | '0' :: 'b' :: rest => !rest.isEmpty && rest.all fun c => c == '0' || c == '1' || c == '_'
  | '0' :: 'x' :: rest =>
    !rest.isEmpty && rest.all fun c => isLoose c || ('a' ≤ c && c ≤ 'f') || ('A' ≤ c && c ≤ 'F')
  | '0' :: rest => rest.all fun c => ('0' ≤ c && c ≤ '7') || c == '_'
  | rest =>
    match Text.splitOn [':'] rest with
    | first :: more => isNumeral isLeading first && more.all isSixtieth
    | [] => false

/-- Whether a text is empty or an exponent with a sign. -/
def isExponent : List Char → Bool
  | [] => true
  | e :: sign :: rest =>
    (e == 'e' || e == 'E') && (sign == '-' || sign == '+') && !rest.isEmpty && rest.all Char.isDigit
  | _ => false

/-- Whether a text spells a floating-point number. -/
def isFloat (s : List Char) : Bool :=
  let body := unsigned s
  let word := String.ofList body
  if [".inf", ".Inf", ".INF"].contains word then true
  else if [".nan", ".NaN", ".NAN"].contains (String.ofList s) then true
  else
    match Text.cut? ['.'] body with
    | none => false
    | some ([], places) =>
      body.length == s.length && places.head?.any Char.isDigit &&
        isExponent (places.dropWhile isLoose)
    | some (front, places) =>
      match Text.splitOn [':'] front with
      | [first] => isNumeral Char.isDigit first && isExponent (places.dropWhile isLoose)
      | first :: more => isNumeral Char.isDigit first && more.all isSixtieth && places.all isLoose
      | [] => false

/-- The fields of a time, as they are written. -/
structure Stamp where
  date : Date
  /-- Microseconds since midnight and the offset, for more than a date. -/
  clock : Option (Nat × Option Int) := none
  deriving Repr

/-- The date or the clock reading of a time, where there is such a day and such an offset. -/
def Stamp.datum (t : Stamp) : Except Fault Datum :=
  match t.clock with
  | none => if t.date.isValid then .ok (.date t.date) else .error .dateField
  | some (ticks, offset) =>
    match if (offset.getD 0).natAbs < ticksPerDay then Reading.ofDate? t.date ticks offset else none with
    | some r => .ok (.stamp r)
    | none => .error .dateField

/-- The number that up to `most` digits at the front of a text spell, of which there are at least `least`, and
the rest. -/
def digits? (least most : Nat) (s : List Char) : Option (Nat × List Char) :=
  let run := (s.take most).takeWhile Char.isDigit
  if run.length < least then none
  else some (Numeral.ofDigits (run.map fun c => c.toNat - 48), s.drop run.length)

/-- A text behind a mark at its front. -/
def behind? (mark : Char) : List Char → Option (List Char)
  | c :: s => if c == mark then some s else none
  | [] => none

/-- The offset in microseconds that ends a text, if the text does not end at once. -/
def offset? (s : List Char) : Option (Option Int) :=
  match s with
  | [] => some none
  | _ =>
    match s.dropWhile fun c => c == ' ' || c == '\t' with
    | ['Z'] => some (some 0)
    | sign :: rest =>
      if sign == '-' || sign == '+' then do
        let (hours, rest) ← digits? 1 2 rest
        let minutes ←
          match rest with
          | [] => some 0
          | _ => do
            let (minutes, rest) ← digits? 2 2 (← behind? ':' rest)
            if rest.isEmpty then some minutes else none
        let size : Int := (hours * 3600 + minutes * 60) * 1000000
        return some (if sign == '-' then -size else size)
      else none
    | [] => none

/-- The time that a text spells. -/
def stamp? (s : List Char) : Option Stamp := do
  let (year, s) ← digits? 4 4 s
  let (month, s) ← digits? 1 2 (← behind? '-' s)
  let (day, s) ← digits? 1 2 (← behind? '-' s)
  let date : Date := ⟨year, month, day⟩
  match s with
  | [] => return { date }
  | c :: rest => do
    let s := rest.dropWhile fun a => (c == ' ' || c == '\t') && (a == ' ' || a == '\t')
    if !(c == ' ' || c == '\t' || c == 'T' || c == 't') then none
    else
      let (hour, s) ← digits? 1 2 s
      let (minute, s) ← digits? 2 2 (← behind? ':' s)
      let (second, s) ← digits? 2 2 (← behind? ':' s)
      let (places, s) := match s with
        | '.' :: s => (s.takeWhile Char.isDigit, s.dropWhile Char.isDigit)
        | s => ([], s)
      let micros := (places ++ List.replicate 6 '0').take 6
      let offset ← offset? s
      let seconds := hour * 3600 + minute * 60 + second
      let inDay := hour < 24 && minute < 60 && second < 60
      let ticks := seconds * 1000000 + Numeral.ofDigits (micros.map fun c => c.toNat - 48)
      return { date, clock := some (if inDay then ticks else ticksPerDay, offset) }

/-- Whether a text spells a time; a date alone must have all its digits. -/
def isStamp (s : List Char) : Bool :=
  match stamp? s with
  | some t => t.clock.isSome || s.length == 10
  | none => false

/-- The kind of a plain text. -/
def kind (text : String) : PlainKind :=
  let s := text.toList
  if truthWords.any fun (word, _) => isWord word text then .truth
  else if isFloat s then .float
  else if isWhole s then .whole
  else if text == "<<" then .merge
  else if text == "~" || text.isEmpty || isWord "null" text then .null
  else if isStamp s then .stamp
  else if text == "=" then .default
  else .text

/-- The value of a digit to a base up to 36: a decimal digit of any script, or a letter. -/
def digitValue? (c : Char) : Option Nat :=
  match Text.decimalValue? c with
  | some d => some d
  | none =>
    if 'a' ≤ c && c ≤ 'z' then some (c.toNat - 87)
    else if 'A' ≤ c && c ≤ 'Z' then some (c.toNat - 55)
    else none

/-- A text without a zero and a mark for the base, small or a capital, at its front. -/
def withoutMark (mark : Char) : List Char → List Char
  | '0' :: c :: s => if c.toLower == mark then s else '0' :: c :: s
  | s => s

/-- The number that digits to a base spell, with blanks around them, a sign and the mark of the base where they
have any. -/
def toBase (base : Nat) (mark : Char) (s : List Char) : Except Fault Int :=
  let (negative, body) := Numeral.sign (Text.trimWhile Text.isBlank s)
  let digits := withoutMark mark body
  let value := digits.foldlM (fun n c => (digitValue? c).bind fun d => if d < base then some (base * n + d) else none) 0
  match value with
  | some n => if digits.isEmpty then .error .notANumber else .ok (if negative then -(n : Int) else n)
  | none => .error .notANumber

/-- The number that decimal digits spell. -/
def toTen (s : List Char) : Except Fault Int :=
  match Numeral.int? (String.ofList s) with
  | some n => .ok n
  | none => .error .notANumber

/-- The whole number that a text spells. -/
def whole (text : String) : Except Fault Int := do
  let s := text.toList.filter (· != '_')
  let n ←
    match unsigned s with
    | [] => throw .missingIndex
    | '0' :: 'b' :: rest => toBase 2 'b' rest
    | '0' :: 'x' :: rest => toBase 16 'x' rest
    | '0' :: rest => toBase 8 'o' ('0' :: rest)
    | rest => (Text.splitOn [':'] rest).foldlM (fun n part => do return 60 * n + (← toTen part)) 0
  return if s.head? == some '-' then -n else n

/-- A number with its sign changed. -/
def negated : Binary64 → Binary64
  | .finite negative m e => .finite (!negative) m e
  | .infinite negative => .infinite (!negative)
  | .nan => .nan

/-- The sum of parts to base 60, the last the least. -/
def sixtieths (parts : List Binary64) : Except Fault Binary64 := do
  let (sum, _) ← parts.reverse.foldlM
    (fun (sum, power) part =>
      match Binary64.ofInt? power with
      | some weight => .ok (Binary64.add sum (Binary64.mul part weight), power * 60)
      | none => .error .infiniteNumber)
    (Binary64.zero, 1)
  return sum

/-- The floating-point number that a text spells. -/
def float (text : String) : Except Fault Binary64 := do
  let s := (text.toList.filter (· != '_')).map Char.toLower
  let body := String.ofList (unsigned s)
  let x ←
    if s.isEmpty then throw .missingIndex
    else if body == ".inf" then pure (.infinite false)
    else if body == ".nan" then pure .nan
    else
      match (Text.split ":" body).mapM Numeral.float? with
      | some parts => sixtieths parts
      | none => throw .notANumber
  return if s.head? == some '-' then negated x else x

end Plain

end MetaSearch.Yaml
