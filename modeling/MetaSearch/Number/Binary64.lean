/-!
# Binary floating point of 64 bits

A finite value is a sign, a whole mantissa below 2^53 and an exponent of two from -1074 to 971. Every
operation is the exact one on ratios of whole numbers followed by one rounding to the nearest value, where a
tie goes to the even mantissa.
-/

namespace MetaSearch

/-- A binary floating-point value of 64 bits. -/
inductive Binary64 where
  | nan
  | infinite (negative : Bool)
  | finite (negative : Bool) (mantissa : Nat) (exponent : Int)
  deriving DecidableEq, Repr, Inhabited

namespace Binary64

/-- The quotient of two whole numbers, rounded to the nearest whole number, a tie to the even one. -/
def roundDiv (num den : Nat) : Nat :=
  let q := num / den
  let r := num % den
  if 2 * r < den then q
  else if den < 2 * r then q + 1
  else if q % 2 = 0 then q else q + 1

/-- The ratio `num / den · 2^(-e)`, as numerator and denominator. -/
def scaled (num den : Nat) (e : Int) : Nat × Nat :=
  if e < 0 then (num * Nat.pow 2 (-e).toNat, den) else (num, den * Nat.pow 2 e.toNat)

/-- The exponent at which the ratio has a mantissa of 53 bits, or the least exponent there is. -/
def exponentFor (num den : Nat) : Int :=
  let e : Int := (Nat.log2 num : Int) - Nat.log2 den - 52
  let (n, d) := scaled num den e
  max (-1074) (if n < d * Nat.pow 2 52 then e - 1 else e)

/-- The value nearest to `num / den`, with the given sign. -/
def ofRatio (negative : Bool) (num den : Nat) : Binary64 :=
  if num = 0 then finite negative 0 (-1074)
  else
    let e := exponentFor num den
    let (n, d) := scaled num den e
    let q := roundDiv n d
    let (m, e) := if q = Nat.pow 2 53 then (Nat.pow 2 52, e + 1) else (q, e)
    if 971 < e then infinite negative else finite negative m e

/-- The positive zero. -/
def zero : Binary64 := finite false 0 (-1074)

/-- The value nearest to a whole number; none where that is beyond the greatest finite value. -/
def ofInt? (i : Int) : Option Binary64 :=
  match ofRatio (i < 0) i.natAbs 1 with
  | finite s m e => some (finite s m e)
  | _ => none

/-- The value nearest to `digits · 10^exponent`, with the given sign. -/
def ofDecimal (negative : Bool) (digits : Nat) (exponent : Int) : Binary64 :=
  -- beyond these exponents the result no longer depends on the exponent
  let size : Int := (Nat.toDigits 10 digits).length
  if digits = 0 then ofRatio negative 0 1
  else if 400 < exponent + size then infinite negative
  else if exponent + size < -400 then ofRatio negative 0 1
  else if exponent < 0 then ofRatio negative digits (Nat.pow 10 (-exponent).toNat)
  else ofRatio negative (digits * Nat.pow 10 exponent.toNat) 1

/-- The magnitude of a finite value as a ratio of whole numbers. -/
def ratio (mantissa : Nat) (exponent : Int) : Nat × Nat :=
  if exponent < 0 then (mantissa, Nat.pow 2 (-exponent).toNat) else (mantissa * Nat.pow 2 exponent.toNat, 1)

/-- Neither infinite nor undefined. -/
def isFinite : Binary64 → Bool
  | finite .. => true
  | _ => false

/-- Whether the value is a zero of either sign. -/
def isZero : Binary64 → Bool
  | finite _ m _ => m == 0
  | _ => false

/-- The whole part of a finite value, toward zero. -/
def truncate? : Binary64 → Option Int
  | finite s m e =>
    let (n, d) := ratio m e
    some (if s then -((n / d : Nat) : Int) else ((n / d : Nat) : Int))
  | _ => none

/-- Division of a value by a positive whole number. -/
def divNat (x : Binary64) (k : Nat) : Binary64 :=
  match x with
  | finite s m e => let (n, d) := ratio m e; ofRatio s n (d * k)
  | other => other

/-- The product of a value and a whole number. -/
def mulNat (x : Binary64) (k : Nat) : Binary64 :=
  match x with
  | finite s m e => let (n, d) := ratio m e; ofRatio s (n * k) d
  | infinite s => if k = 0 then nan else infinite s
  | nan => nan

/-- The product of two values. -/
def mul (x y : Binary64) : Binary64 :=
  match x, y with
  | nan, _ | _, nan => nan
  | infinite s, infinite t => infinite (s != t)
  | infinite s, finite t m _ | finite t m _, infinite s =>
    if m = 0 then nan else infinite (s != t)
  | finite s m e, finite t n f =>
    let (a, b) := ratio m e
    let (c, d) := ratio n f
    ofRatio (s != t) (a * c) (b * d)

/-- A finite value as a signed ratio. -/
def signedRatio? : Binary64 → Option (Int × Nat)
  | finite s m e =>
    let (n, d) := ratio m e
    some (if s then -(n : Int) else (n : Int), d)
  | _ => none

/-- The sum of two values. -/
def add (x y : Binary64) : Binary64 :=
  match x, y with
  | nan, _ | _, nan => nan
  | infinite s, infinite t => if s = t then infinite s else nan
  | infinite s, _ | _, infinite s => infinite s
  | finite s _ _, finite t _ _ =>
    match x.signedRatio?, y.signedRatio? with
    | some (a, b), some (c, d) =>
      let sum := a * d + c * b
      ofRatio (if sum = 0 then s && t else sum < 0) sum.natAbs (b * d)
    | _, _ => nan

/-- Whether the first value is less than the second; nothing is less or greater than the undefined value. -/
def lt (x y : Binary64) : Bool :=
  match x, y with
  | nan, _ | _, nan => false
  | infinite s, infinite t => s && !t
  | infinite s, finite .. => s
  | finite .., infinite t => !t
  | finite .., finite .. =>
    match x.signedRatio?, y.signedRatio? with
    | some (a, b), some (c, d) => a * d < c * b
    | _, _ => false

/-- Whether two values are equal as numbers. -/
def eq (x y : Binary64) : Bool :=
  match x, y with
  | nan, _ | _, nan => false
  | infinite s, infinite t => s == t
  | finite .., finite .. =>
    match x.signedRatio?, y.signedRatio? with
    | some (a, b), some (c, d) => a * d == c * b
    | _, _ => false
  | _, _ => false

/-- Whether a value equals a whole number. -/
def eqInt (x : Binary64) (i : Int) : Bool :=
  match x.signedRatio? with
  | some (a, b) => a == i * b
  | none => false

/-- Rounding is exact on a ratio that is a whole number. -/
theorem roundDiv_mul_self (q : Nat) {d : Nat} (hd : 0 < d) : roundDiv (q * d) d = q := by
  simp [roundDiv, Nat.mul_div_cancel _ hd, hd]

end Binary64

end MetaSearch
