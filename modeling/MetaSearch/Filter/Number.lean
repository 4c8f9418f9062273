import MetaSearch.Filter.Basic
import MetaSearch.Text.Basic

/-!
# Number filters

A whole number is what remains of a text when all but digits and hyphens are dropped; a floating-point number is
the one at the front of a text when thousands commas are dropped.
-/

namespace MetaSearch.Filter

/-- The whole number at the first digits of a text of digits and hyphens, with the hyphen right before them. -/
def firstInt (negative : Bool) : List Char → Option (Bool × List Char)
  | [] => none
  | c :: s =>
    if c.isDigit then some (negative, (c :: s).takeWhile Char.isDigit) else firstInt (c == '-') s

/-- A whole number from a value; zero where nothing numeric is left. -/
def toInt (value : Datum) : Except Fault Datum :=
  match value with
  | .int i => .ok (.int i)
  | .float x => .ok (.int (x.truncate?.getD 0))
  | other =>
    match firstInt false (other.asText.toList.filter fun c => c.isDigit || c == '-') with
    | none => .ok (.int 0)
    | some (negative, ds) =>
      if Numeral.maxDigits < ds.length then .error .notANumber
      else
        let n : Int := Numeral.ofDigits (ds.map fun c => c.toNat - 48)
        .ok (.int (if negative then -n else n))

/-- The digits at the front of a text, without underscores, and the rest. -/
def digitSpan (s : List Char) : List Nat × List Char :=
  ((s.takeWhile Text.isDecimal).filterMap Text.decimalValue?, s.dropWhile Text.isDecimal)

/-- The number at the front of a text: a sign, digits with a point behind, within or before them, and an
exponent. -/
def leadingFloat? (s : List Char) : Option Binary64 :=
  let (negative, body) := Numeral.sign s
  let (whole, rest) := digitSpan body
  let (places, rest) := match rest with
    | '.' :: r => digitSpan r
    | r => ([], r)
  if whole.isEmpty && places.isEmpty then none
  else
    let exponent : Int := match rest with
      | c :: r =>
        if c == 'e' || c == 'E' then
          let (minus, r) := Numeral.sign r
          let n : Int := Numeral.ofDigits (digitSpan r).1
          if minus then -n else n
        else 0
      | [] => 0
    some (.ofDecimal negative (Numeral.ofDigits (whole ++ places)) (exponent - (places.length : Int)))

/-- A floating-point number from a value; zero where there is none at the front. -/
def toFloat (value : Datum) : Except Fault Datum :=
  match value with
  | .int i => (Binary64.ofInt? i).elim (.error .infiniteNumber) fun x => .ok (.float x)
  | .float x => .ok (.float (if x.isFinite then x else .zero))
  | other =>
    let text := Text.strip (Text.replace "," "" other.asText)
    .ok (.float ((leadingFloat? text.toList).getD .zero))

end MetaSearch.Filter
