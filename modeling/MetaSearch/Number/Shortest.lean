import MetaSearch.Number.Binary64
import MetaSearch.Text.Basic

/-!
# Decimal text of floating-point values

A finite value prints with the fewest decimal digits that read back as the same value; of several such
decimals the nearest is taken. The digits come from exact arithmetic: on the grids of 1, 2, … 17 digits, the
two neighbours of the value are tested against the interval of reals that round to it. `fixed` prints a
chosen number of places, `general` a chosen number of digits.
-/

namespace MetaSearch.Binary64

/-- The decimal exponent `k` with `10^(k-1) ≤ n / d < 10^k`, for a positive ratio; `fuel` bounds the
correction of the first guess. -/
def decimalPoint (n d : Nat) : Int :=
  let guess : Int := (((Nat.log2 n : Int) - Nat.log2 d) * 30103).fdiv 100000
  let atLeast (k : Int) : Bool :=
    if k < 0 then d ≤ n * Nat.pow 10 (-k).toNat else d * Nat.pow 10 k.toNat ≤ n
  let rec settle : Nat → Int → Int
    | 0, k => k
    | fuel + 1, k => if atLeast k then settle fuel (k + 1) else k
  settle 8 (guess - 2)

/-- Whether the decimal `digits · 10^exponent` rounds to the value `mantissa · 2^twos`. -/
def readsBack (mantissa : Nat) (twos : Int) (digits : Nat) (exponent : Int) : Bool :=
  ofDecimal false digits exponent == finite false mantissa twos

/-- The shortest digits of `mantissa · 2^twos` that read back and the exponent of ten of the last digit,
tried from `places` digits on. -/
def shortestDigits (mantissa : Nat) (twos : Int) : Nat × Int :=
  let (n, d) := ratio mantissa twos
  let point := decimalPoint n d
  let rec go : Nat → Nat → Nat × Int
    | 0, _ => (0, 0)
    | fuel + 1, places =>
      let e := point - places
      let (a, b) := if e < 0 then (n * Nat.pow 10 (-e).toNat, d) else (n, d * Nat.pow 10 e.toNat)
      let low := a / b
      let nearLow := 2 * (a % b) ≤ b
      let first := if nearLow then low else low + 1
      let second := if nearLow then low + 1 else low
      if readsBack mantissa twos first e then (first, e)
      else if readsBack mantissa twos second e then (second, e)
      else go fuel (places + 1)
  go 18 1

/-- Digits without zeros at the end, with the exponent raised for each zero dropped. -/
def dropZeros : Nat → Nat × Int → Nat × Int
  | 0, x => x
  | fuel + 1, (digits, e) =>
    if digits ≠ 0 ∧ digits % 10 = 0 then dropZeros fuel (digits / 10, e + 1) else (digits, e)

/-- The exponent part of a decimal: a sign and at least two digits. -/
def exponentText (e : Int) : String :=
  (if e < 0 then "e-" else "e+") ++ Text.padded 2 e.natAbs

/-- The decimal `digits · 10^exponent`, with a fraction of at least one digit in positional notation and
scientific notation from 10^16 on and below 10^-4. -/
def decimalText (digits : Nat) (exponent : Int) : String :=
  let ds := Nat.toDigits 10 digits
  let point : Int := ds.length + exponent
  if point ≤ -4 ∨ 16 < point then
    let body := match ds with
      | [] => []
      | [d] => [d]
      | d :: rest => d :: '.' :: rest
    String.ofList body ++ exponentText (point - 1)
  else if point ≤ 0 then
    String.ofList ('0' :: '.' :: List.replicate (-point).toNat '0' ++ ds)
  else
    let whole := ds.take point.toNat ++ List.replicate (point.toNat - ds.length) '0'
    let places := ds.drop point.toNat
    String.ofList (whole ++ '.' :: (if places.isEmpty then ['0'] else places))

/-- The text of a value: its shortest decimal, `inf` or `nan`. -/
def text : Binary64 → String
  | nan => "nan"
  | infinite s => if s then "-inf" else "inf"
  | finite s m e =>
    (if s then "-" else "") ++
      (if m = 0 then "0.0"
       else
        let (digits, exponent) := dropZeros 20 (shortestDigits m e)
        decimalText digits exponent)

/-- The magnitude of a value with `places` places behind the point. -/
def fixedDigits (places m : Nat) (e : Int) : String :=
  let (n, d) := ratio m e
  let scaled := Nat.toDigits 10 (roundDiv (n * Nat.pow 10 places) d)
  let digits := List.replicate (places + 1 - scaled.length) '0' ++ scaled
  let whole := digits.take (digits.length - places)
  let rest := digits.drop (digits.length - places)
  String.ofList (if places = 0 then whole else whole ++ '.' :: rest)

/-- The value with a fixed number of places behind the point. -/
def fixed (places : Nat) : Binary64 → String
  | nan => "nan"
  | infinite s => if s then "-inf" else "inf"
  | finite s m e => (if s then "-" else "") ++ fixedDigits places m e

/-- The value with six significant digits and no zeros at the end of its fraction; scientific from 10^6 on
and below 10^-4. -/
def general : Binary64 → String
  | nan => "nan"
  | infinite s => if s then "-inf" else "inf"
  | finite s m e =>
    (if s then "-" else "") ++
      (if m = 0 then "0"
       else
        let (n, d) := ratio m e
        let point := decimalPoint n d
        let k := point - 6
        let rounded :=
          if k < 0 then roundDiv (n * Nat.pow 10 (-k).toNat) d else roundDiv n (d * Nat.pow 10 k.toNat)
        let (digits, exponent) := dropZeros 7 (rounded, k)
        let ds := Nat.toDigits 10 digits
        let point : Int := ds.length + exponent
        if point ≤ -4 ∨ 6 < point then
          let body := match ds with
            | [] => []
            | [d] => [d]
            | d :: rest => d :: '.' :: rest
          String.ofList body ++ exponentText (point - 1)
        else if point ≤ 0 then
          String.ofList ('0' :: '.' :: List.replicate (-point).toNat '0' ++ ds)
        else
          let whole := ds.take point.toNat ++ List.replicate (point.toNat - ds.length) '0'
          let places := ds.drop point.toNat
          String.ofList (if places.isEmpty then whole else whole ++ '.' :: places))

end MetaSearch.Binary64
