import MetaSearch.Text.Basic
import MetaSearch.Text.Letter

/-!
# Host names beyond ASCII

A name with other letters is sent in a spelling of ASCII: each label that needs it keeps its ASCII characters
in front, and the places and numbers of the others follow as digits to the base 36, smallest number first. The
spelling is marked by `xn--`, and labels that no name may have are refused.
-/

namespace MetaSearch.HostName

/-- The letter or figure of a digit to the base 36. -/
def digit (d : Nat) : Char :=
  if d < 26 then Char.ofNat (97 + d) else Char.ofNat (22 + d)

/-- The least digit that is followed by another, at a place and under a bias. -/
def threshold (place bias : Nat) : Nat :=
  max 1 (min 26 (place - bias))

theorem threshold_pos (place bias : Nat) : 1 ≤ threshold place bias := Nat.le_max_left ..

theorem threshold_le (place bias : Nat) : threshold place bias ≤ 26 := by
  unfold threshold
  omega

/-- The digits of a number from a place on; a digit below the threshold is the last. -/
def digits (bias place n : Nat) : List Char :=
  let t := threshold place bias
  if n < t then [digit n]
  else digit (t + (n - t) % (36 - t)) :: digits bias (place + 36) ((n - t) / (36 - t))
termination_by n
decreasing_by
  have := threshold_pos place bias
  have := Nat.div_le_self (n - threshold place bias) (36 - threshold place bias)
  omega

/-- A number divided by 35 until it is no more than 455, beside 36 for each division. -/
def settle (n steps : Nat) : Nat × Nat :=
  if 455 < n then settle (n / 35) (steps + 36) else (n, steps)
termination_by n

/-- The bias after a number was written. -/
def adapt (n count : Nat) (isFirst : Bool) : Nat :=
  let n := if isFirst then n / 700 else n / 2
  let (n, steps) := settle (n + n / count) 0
  steps + 36 * n / (n + 38)

/-- What was written of a label, and how far the writing is. -/
structure Progress where
  /-- The digits so far. -/
  written : List Char := []
  /-- The places passed since the last character. -/
  passed : Nat := 0
  bias : Nat := 72
  /-- The characters that stand in their places. -/
  placed : Nat
  deriving Repr, Inhabited

/-- The progress past one character of the label, while characters of number `n` are put in. -/
def Progress.past (basic n : Nat) (p : Progress) (c : Char) : Progress :=
  if c.toNat < n then { p with passed := p.passed + 1 }
  else if c.toNat == n then
    { written := p.written ++ digits p.bias 36 p.passed, passed := 0
      bias := adapt p.passed (p.placed + 1) (p.placed == basic), placed := p.placed + 1 }
  else p

/-- The progress after the characters of further numbers, from the number `next` on. -/
def Progress.through (label : List Char) (basic : Nat) : List Nat → Nat → Progress → Progress
  | [], _, p => p
  | n :: rest, next, p =>
    let p := label.foldl (Progress.past basic n) { p with passed := p.passed + (n - next) * (p.placed + 1) }
    Progress.through label basic rest (n + 1) { p with passed := p.passed + 1 }

/-- A label of ASCII characters that stands for a label. -/
def spelled (label : List Char) : List Char :=
  let basic := label.filter (·.toNat < 128)
  let others := ((label.filter (128 ≤ ·.toNat)).map Char.toNat).mergeSort.eraseDups
  basic ++ (if basic.isEmpty then [] else ['-']) ++
    (Progress.through label basic.length others 128 { placed := basic.length }).written

/-- What a label of a name is made of: hyphens, and letters and figures that no folding of case changes. -/
def isLabelChar (c : Char) : Bool :=
  if c.toNat < 128 then c.isLower || c.isDigit || c == '-'
  else Text.isAlphanumeric c && (Text.foldExpansion c == [c] || c == 'ß' || c == 'ς')

/-- A label that a name may have: no hyphen at its ends, nor at the places of the mark. -/
def isLabel (label : List Char) : Bool :=
  !label.isEmpty && label.head? != some '-' && label.getLast? != some '-' &&
    (label.drop 2).take 2 != ['-', '-'] && label.all isLabelChar

/-- The mark of a label that stands for another. -/
def mark : List Char := "xn--".toList

/-- The ASCII spelling of a label, if a name may have it. -/
def label? (label : List Char) : Option (List Char) :=
  let written := if label.all (·.toNat < 128) then label else mark ++ spelled label
  let isGood :=
    match Text.after? mark label with
    | some rest => label.all (·.toNat < 128) && !rest.isEmpty && rest.getLast? != some '-'
    | none => isLabel label
  if isGood && written.length ≤ 63 then some written else none

/-- The full stop, and the stops of other scripts. -/
def isStop (c : Char) : Bool :=
  c == '.' || c == '。' || c == '．' || c == '｡'

/-- The ASCII spelling of a name, if there can be such a host; a stop at the end stays. -/
def ascii? (name : String) : Option String := do
  let name := (Text.lower name).toList.map fun c => if isStop c then '.' else c
  let labels := Text.splitOn ['.'] name
  let hasEnd := labels.getLast? == some []
  let labels ← (if hasEnd then labels.dropLast else labels).mapM label?
  let written := Text.joinWith ['.'] (if hasEnd then labels ++ [[]] else labels)
  if written.length ≤ (if hasEnd then 254 else 253) then some (String.ofList written) else none

end MetaSearch.HostName
