import MetaSearch.Text.CaseTable
import MetaSearch.Text.LetterTable
import MetaSearch.Text.PrintableTable

/-!
# Character classes and case

Classes and case maps over all scripts. A map to single characters (`lowerChar`) serves comparison character
by character; the maps of whole texts (`lower`, `upper`, `fold`) may lengthen the text, and `lower` writes a
capital sigma at the end of a word in its final form.
-/

namespace MetaSearch.Text

/-- Whether a code point lies in one of the ranges. -/
def inRanges (ranges : Array (Nat × Nat)) (n : Nat) : Bool :=
  ranges.any fun (first, last) => first ≤ n && n ≤ last

/-- The image of a code point under the segments of a case map, where one holds it. -/
def segmentImage? (segments : Array (Nat × Nat × Nat × Nat)) (n : Nat) : Option Nat :=
  (segments.find? fun (first, last, step, _) =>
      first ≤ n && n ≤ last && (n - first) % step == 0).map
    fun (first, _, _, image) => image + (n - first)

/-- A letter or number of any script. -/
def isAlphanumeric (c : Char) : Bool :=
  c.isAlphanum || (128 ≤ c.toNat && inRanges wordRanges c.toNat)

/-- A letter, number or underscore. -/
def isWordChar (c : Char) : Bool :=
  c == '_' || isAlphanumeric c

/-- The value of a decimal digit of any script. -/
def decimalValue? (c : Char) : Option Nat :=
  if c.isDigit then some (c.toNat - 48)
  else if c.toNat < 128 then none
  else
    (decimalRanges.find? fun (first, last) => first ≤ c.toNat && c.toNat ≤ last).map
      fun (first, _) => (c.toNat - first) % 10

/-- A decimal digit of any script. -/
def isDecimal (c : Char) : Bool :=
  (decimalValue? c).isSome

/-- A decimal digit or another sign for one digit, such as a superscript. -/
def isDigitSign (c : Char) : Bool :=
  isDecimal c || inRanges digitSignRanges c.toNat

/-- A character that a quoted text shows as itself. -/
def isPrintable (c : Char) : Bool :=
  if c.toNat < 127 then 32 ≤ c.toNat else inRanges printableRanges c.toNat

/-- A character with case. -/
def isCased (c : Char) : Bool :=
  inRanges casedRanges c.toNat

/-- A character that case rules look past. -/
def isCaseIgnorable (c : Char) : Bool :=
  inRanges caseIgnorableRanges c.toNat

/-- The small letter of a character, one for one. -/
def lowerChar (c : Char) : Char :=
  if c.toNat < 128 then c.toLower else ((segmentImage? lowerSegments c.toNat).map Char.ofNat).getD c

/-- The capital of a character, one for one. -/
def upperChar (c : Char) : Char :=
  if c.toNat < 128 then c.toUpper else ((segmentImage? upperSegments c.toNat).map Char.ofNat).getD c

/-- The capital form of a character. -/
def upperExpansion (c : Char) : List Char :=
  if c.toNat < 128 then [c.toUpper]
  else
    match upperExpansions.find? (·.1 == c.toNat) with
    | some (_, image) => image.map Char.ofNat
    | none => [upperChar c]

/-- The caseless form of a character. -/
def foldExpansion (c : Char) : List Char :=
  if c.toNat < 128 then [c.toLower]
  else
    match foldExpansions.find? (·.1 == c.toNat) with
    | some (_, image) => image.map Char.ofNat
    | none =>
      match segmentImage? foldSegments c.toNat with
      | some image => [Char.ofNat image]
      | none => [lowerChar c]

/-- Whether the nearest character that case rules do not look past has case. -/
def casedNext (s : List Char) : Bool :=
  match s.dropWhile isCaseIgnorable with
  | c :: _ => isCased c
  | [] => false

/-- Small letters of a text; `before` holds the characters already passed, nearest first. -/
def lowerFrom (before : List Char) : List Char → List Char
  | [] => []
  | c :: rest =>
    let image :=
      if c.toNat < 128 then [c.toLower]
      else if c == 'Σ' then
        if casedNext before && !casedNext rest then ['ς'] else ['σ']
      else if c == 'İ' then ['i', '\u0307']
      else [lowerChar c]
    image ++ lowerFrom (c :: before) rest

/-- The text in small letters. -/
def lower (s : String) : String :=
  String.ofList (lowerFrom [] s.toList)

/-- The text in capitals. -/
def upper (s : String) : String :=
  String.ofList (s.toList.flatMap upperExpansion)

/-- The caseless form of a text: texts that differ in case alone have the same form. -/
def fold (s : String) : String :=
  String.ofList (s.toList.flatMap foldExpansion)

/-- Whether a text is non-empty and holds decimal digits of any script alone. -/
def isDecimalText (s : String) : Bool :=
  !s.isEmpty && s.toList.all isDecimal

/-- Whether a text is non-empty and holds signs for single digits alone. -/
def isDigitText (s : String) : Bool :=
  !s.isEmpty && s.toList.all isDigitSign

theorem isAlphanumeric_of_isAlphanum {c : Char} (h : c.isAlphanum) : isAlphanumeric c := by
  simp [isAlphanumeric, h]

theorem decimalValue?_of_isDigit {c : Char} (h : c.isDigit) :
    decimalValue? c = some (c.toNat - 48) := by
  simp [decimalValue?, h]

/-! ## Comparing letters without case

Two letters are the same without case when their small letters agree, or when those belong to one class of
small letters that share a capital, such as the long and the short s.
-/

/-- Classes of small letters that share a capital although no case map joins them. -/
def sharedCapitals : List (List Nat) := [
  [0x69, 0x131], [0x73, 0x17F], [0xB5, 0x3BC], [0x345, 0x3B9, 0x1FBE], [0x390, 0x1FD3],
  [0x3B0, 0x1FE3], [0x3B2, 0x3D0], [0x3B5, 0x3F5], [0x3B8, 0x3D1], [0x3BA, 0x3F0], [0x3C0, 0x3D6],
  [0x3C1, 0x3F1], [0x3C2, 0x3C3], [0x3C6, 0x3D5], [0x432, 0x1C80], [0x434, 0x1C81],
  [0x43E, 0x1C82], [0x441, 0x1C83], [0x442, 0x1C84, 0x1C85], [0x44A, 0x1C86], [0x463, 0x1C87],
  [0x1C88, 0xA64B], [0x1E61, 0x1E9B], [0xFB05, 0xFB06]]

/-- The small letters that share a capital with `c`, itself included. -/
def caselessClass (c : Char) : List Char :=
  let small := lowerChar c
  match sharedCapitals.find? (·.contains small.toNat) with
  | some members => members.map Char.ofNat
  | none => [small]

/-- Whether two letters are the same without case. -/
def sameLetter (a b : Char) : Bool :=
  lowerChar a == lowerChar b || (caselessClass a).contains (lowerChar b)

theorem sameLetter_self (a : Char) : sameLetter a a = true := by
  simp [sameLetter]

end MetaSearch.Text
