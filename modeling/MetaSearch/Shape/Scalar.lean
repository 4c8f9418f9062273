import MetaSearch.Number.Numeral
import MetaSearch.Shape.Basic
import MetaSearch.Text.Utf8

/-!
# Shapes of scalars

Texts, numbers, truth values and words of a choice. Scalars are read kindly: a number may be written as a text, a
truth value as a word or as zero or one.
-/

namespace MetaSearch.Shape

/-- A text; bytes are one where they encode one. -/
def text : Shape String
  | .text s => .good s
  | .bytes b =>
    match Utf8.decode? b with
    | some s => .good (String.ofList s)
    | none => .complain "Input should be a valid string, unable to parse raw data as a unicode string"
  | _ => .complain "Input should be a valid string"

/-- Words in quotes, the last two with `or` between them. -/
def alternatives : List String → String
  | [] => ""
  | [a] => "'" ++ a ++ "'"
  | [a, b] => "'" ++ a ++ "' or '" ++ b ++ "'"
  | a :: rest => "'" ++ a ++ "', " ++ alternatives rest

/-- One of some words, each standing for something. -/
def choice {α : Type} (words : List (String × α)) : Shape α := fun d =>
  match d.text?.bind fun s => List.lookup s words with
  | some a => .good a
  | none => .complain ("Input should be " ++ alternatives (words.map (·.1)))

/-- Words for true and for false. -/
def truthWords : List (String × Bool) :=
  [("0", false), ("f", false), ("n", false), ("no", false), ("off", false), ("false", false),
   ("1", true), ("t", true), ("y", true), ("yes", true), ("on", true), ("true", true)]

/-- A truth value that a number says. -/
def truthOfNumber (i : Int) : Shaped Bool :=
  if i = 0 then .good false
  else if i = 1 then .good true
  else .complain "Input should be a valid boolean, unable to interpret input"

/-- A truth value. -/
def truth : Shape Bool
  | .bool b => .good b
  | .int i => truthOfNumber i
  | .float x =>
    match (Datum.float x).wholeNumber? with
    | some i => truthOfNumber i
    | none => .complain "Input should be a valid boolean"
  | .text s =>
    match List.lookup (String.ofList (s.toList.map Char.toLower)) truthWords with
    | some b => .good b
    | none => .complain "Input should be a valid boolean, unable to interpret input"
  | _ => .complain "Input should be a valid boolean"

/-- A numeral without the zeros in front of its first other digit, single or with underscores; the last of the
characters stays. -/
def withoutLeadingZeros : List Char → List Char
  | [] => []
  | [c] => [c]
  | c :: d :: s =>
    if (c == '0' || c == '_') && (d.isDigit || d == '_') then withoutLeadingZeros (d :: s) else c :: d :: s

/-- A numeral without a point and the zeros behind it, where nothing else is behind it. -/
def withoutPlaces (s : List Char) : List Char :=
  let whole := s.takeWhile (· != '.')
  if (s.drop whole.length).drop 1 |>.all (· == '0') then whole else s

/-- Whether underscores stand between digits only. -/
def hasInnerUnderscores (s : List Char) : Bool :=
  s.head? != some '_' && s.getLast? != some '_' &&
    (s.zip (s.drop 1)).all fun (a, b) => !(a == '_' && b == '_')

/-- The whole number that a numeral spells. -/
def wholeOfText? (s : List Char) : Option Int :=
  let s := Text.trimWhile Text.isBlank s
  let s := match s with
    | '+' :: '-' :: _ => []
    | '+' :: rest => rest
    | s => s
  let s := match s with
    | '0' :: _ => withoutLeadingZeros s
    | s => s
  let s := withoutPlaces s
  let s := if hasInnerUnderscores s then s.filter (· != '_') else s
  let (negative, digits) : Bool × List Char :=
    match s with
    | '-' :: rest => (true, rest)
    | s => (false, s)
  let padded := digits.head? == some '0' && digits.length != 1
  if digits.isEmpty || padded || !digits.all Char.isDigit then none
  else
    let n : Int := digits.foldl (fun n c => 10 * n + (c.toNat - 48)) 0
    some (if negative then -n else n)

/-- A whole number. -/
def whole : Shape Int
  | .int i => .good i
  | .bool b => .good (if b then 1 else 0)
  | .float x =>
    if !x.isFinite then .complain "Input should be a finite number"
    else
      match (Datum.float x).wholeNumber? with
      | some i =>
        if i.natAbs < Nat.pow 2 63 then .good i
        else .complain "Unable to parse input string as an integer, exceeded maximum size"
      | none => .complain "Input should be a valid integer, got a number with a fractional part"
  | .text s =>
    if Numeral.maxDigits < s.length then
      .complain "Unable to parse input string as an integer, exceeded maximum size"
    else
      match wholeOfText? s.toList with
      | some i => .good i
      | none => .complain "Input should be a valid integer, unable to parse string as an integer"
  | _ => .complain "Input should be a valid integer"

/-- The floating-point number that a numeral of ASCII characters spells. -/
def numberOfText? (s : String) : Option Binary64 :=
  let s := Text.strip s
  if s.toList.all (·.toNat < 128) then Numeral.float? s else none

/-- A number. -/
def number : Shape Binary64
  | .float x => .good x
  | .int i =>
    match Binary64.ofInt? i with
    | some x => .good x
    | none => .complain "Input should be a valid number"
  | .bool b => .good ((Binary64.ofInt? (if b then 1 else 0)).getD Binary64.zero)
  | .text s =>
    match numberOfText? s with
    | some x => .good x
    | none => .complain "Input should be a valid number, unable to parse string as a number"
  | _ => .complain "Input should be a valid number"

end MetaSearch.Shape
