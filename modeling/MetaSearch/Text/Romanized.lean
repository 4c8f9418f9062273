import MetaSearch.Text.Basic
import MetaSearch.Text.RomanTable
import Std.Data.HashMap

/-!
# Romanized texts

Every text has a form in ASCII: letters without their marks, other scripts by their sounds, symbols by words or
signs that resemble them. A character without a romanization is left out.
-/

namespace MetaSearch.Text

/-- The romanization that a word of the table stands for. -/
def romanWord (word : String) : String :=
  if word == "~" then ""
  else
    String.ofList (word.toList.map fun c =>
      if c == '_' then ' '
      else if c == '\x01' then '~'
      else if c == '\x02' then '_'
      else if c == '\x03' then '\n'
      else c)

/-- The romanizations of the table by code point. -/
def romanizations : Std.HashMap Nat String :=
  let blocks := romanBlocks.foldl (fun table (start, lines) =>
    (lines.flatMap (split " ")).zipIdx.foldl (fun table (word, i) => table.insert (start + i) (romanWord word))
      table) ({} : Std.HashMap Nat String)
  ideographSounds.foldl (fun table (sound, chars) =>
    chars.toList.foldl (fun table c => table.insert c.toNat (sound ++ " ")) table) blocks

/-- The sounds of a syllable block: how it begins, its vowel and how it ends. -/
def syllable (n : Nat) : String :=
  syllableHeads.getD (n / 588) "" ++ syllableVowels.getD (n / 28 % 21) "" ++ syllableTails.getD (n % 28) ""

/-- The letter of an alphabet of capitals and small letters. -/
def alphabetLetter (n : Nat) : Char :=
  if n < 26 then Char.ofNat (65 + n) else Char.ofNat (71 + n)

/-- The romanization of a character; the alphabets and figures of formulas are letters and figures. -/
def romanChar (c : Char) : String :=
  let n := c.toNat
  if n < 128 then String.singleton c
  else if 0xAC00 ≤ n ∧ n ≤ 0xD7A3 then syllable (n - 0xAC00)
  else if 0x1D400 ≤ n ∧ n ≤ 0x1D6A3 then String.singleton (alphabetLetter ((n - 0x1D400) % 52))
  else if 0x1D7CE ≤ n ∧ n ≤ 0x1D7FF then toString ((n - 0x1D7CE) % 10)
  else romanizations.getD n ""

/-- The text in ASCII. -/
def romanize (s : String) : String :=
  String.join (s.toList.map romanChar)

end MetaSearch.Text
