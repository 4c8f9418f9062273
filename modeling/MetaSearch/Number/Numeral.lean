import MetaSearch.Number.Binary64
import MetaSearch.Text.Blank
import MetaSearch.Text.Letter

/-!
# Numerals

Reading whole and decimal numbers from text. A numeral may have blanks around it, a sign, digits of any
script and single underscores between digits.
-/

namespace MetaSearch.Numeral

/-- The number that a list of digit values spells. -/
def ofDigits (ds : List Nat) : Nat :=
  ds.foldl (fun n d => 10 * n + d) 0

/-- A text without the underscore at its front, where a digit follows that. -/
def afterUnderscore : List Char → List Char
  | '_' :: c :: s => if Text.isDecimal c then c :: s else '_' :: c :: s
  | s => s

theorem length_afterUnderscore_le (s : List Char) : (afterUnderscore s).length ≤ s.length := by
  unfold afterUnderscore
  split
  · split <;> simp
  · exact Nat.le_refl _

/-- The digits at the front of a text, underscores between two digits passed over, and the rest. -/
def digitRun : List Char → List Nat × List Char
  | [] => ([], [])
  | c :: s =>
    match Text.decimalValue? c with
    | none => ([], c :: s)
    | some d =>
      let (ds, rest) := digitRun (afterUnderscore s)
      (d :: ds, rest)
termination_by s => s.length
decreasing_by
  have := length_afterUnderscore_le s
  simp only [List.length_cons]
  omega

/-- A sign at the front of a text: whether it is a minus, and the rest. -/
def sign : List Char → Bool × List Char
  | '-' :: s => (true, s)
  | '+' :: s => (false, s)
  | s => (false, s)

/-- The greatest number of digits that a whole number may be written with. -/
def maxDigits : Nat := 4300

/-- The whole number that a text spells. -/
def int? (s : String) : Option Int :=
  let (negative, body) := sign (Text.trimWhile Text.isBlank s.toList)
  match digitRun body with
  | (d :: ds, []) =>
    let n : Int := ofDigits (d :: ds)
    if maxDigits ≤ ds.length then none else some (if negative then -n else n)
  | _ => none

/-- An exponent at the front of a text and the rest; absent unless digits follow the mark. -/
def exponentRun : List Char → Option (Int × List Char)
  | c :: s =>
    if c == 'e' || c == 'E' then
      let (negative, body) := sign s
      match digitRun body with
      | (d :: ds, rest) =>
        let n : Int := ofDigits (d :: ds)
        some (if negative then -n else n, rest)
      | ([], _) => none
    else none
  | [] => none

/-- The decimal number at the front of a text, as digits and an exponent of ten, and the rest. -/
def decimalRun (s : List Char) : Option (Nat × Int × List Char) :=
  let (whole, afterWhole) := digitRun s
  let (places, rest) :=
    match afterWhole with
    | '.' :: r => digitRun r
    | r => ([], r)
  if whole.isEmpty && places.isEmpty then none
  else
    let digits := ofDigits (whole ++ places)
    let point : Int := -(places.length : Int)
    match exponentRun rest with
    | some (e, rest) => some (digits, point + e, rest)
    | none => some (digits, point, rest)

/-- The floating-point value that a text spells, infinities and the undefined value included. -/
def float? (s : String) : Option Binary64 :=
  let (negative, body) := sign (Text.trimWhile Text.isBlank s.toList)
  match decimalRun body with
  | some (digits, e, []) => some (Binary64.ofDecimal negative digits e)
  | some _ => none
  | none =>
    let word := String.ofList (body.map Char.toLower)
    if word == "inf" || word == "infinity" then some (.infinite negative)
    else if word == "nan" then some .nan
    else none

theorem ofDigits_append_singleton (ds : List Nat) (d : Nat) :
    ofDigits (ds ++ [d]) = 10 * ofDigits ds + d := by
  simp [ofDigits]

end MetaSearch.Numeral
