import MetaSearch.Datum.Json
import MetaSearch.Markup.EntityTable
import MetaSearch.Text.Basic
import Std.Data.HashMap

/-!
# Character references

A character reference is an ampersand and a name or a number. `escape` writes the five characters that markup
gives a meaning as references; `unescape` reads references of every kind, a name without its semicolon by its
longest known beginning.
-/

namespace MetaSearch.Markup

/-- The characters of one word of the table: code points with plus signs between them. -/
def codeChars (codes : String) : String :=
  String.ofList ((Text.split "+" codes).map fun code =>
    Char.ofNat ((code.toList.filterMap Json.hexValue?).foldl (fun n d => 16 * n + d) 0))

/-- Every name with its characters. -/
def entities : Std.HashMap String String :=
  (entityWords.flatMap (Text.split " ")).foldl (fun table word =>
    match Text.cutAt? "=" word with
    | some (name, codes) => table.insert name (codeChars codes)
    | none => table) {}

/-- The text with the five characters that markup gives a meaning written as references. -/
def escape (s : String) : String :=
  String.ofList (s.toList.flatMap fun c =>
    match c with
    | '&' => "&amp;".toList
    | '<' => "&lt;".toList
    | '>' => "&gt;".toList
    | '"' => "&quot;".toList
    | '\'' => "&#x27;".toList
    | c => [c])

/-- The characters that the numbers 128 to 159 stand for, as most pages mean them. -/
def highControls : List Nat :=
  [0x20AC, 0x81, 0x201A, 0x192, 0x201E, 0x2026, 0x2020, 0x2021, 0x2C6, 0x2030, 0x160, 0x2039, 0x152, 0x8D,
   0x17D, 0x8F, 0x90, 0x2018, 0x2019, 0x201C, 0x201D, 0x2022, 0x2013, 0x2014, 0x2DC, 0x2122, 0x161, 0x203A,
   0x153, 0x9D, 0x17E, 0x178]

/-- The characters that a numeric reference stands for; none for a control or a code point that is no
character. -/
def numbered (n : Nat) : List Char :=
  if n = 0 then ['\uFFFD']
  else if n = 13 then ['\r']
  else if 0x80 ≤ n ∧ n ≤ 0x9F then [Char.ofNat (highControls.getD (n - 0x80) n)]
  else if (0xD800 ≤ n ∧ n ≤ 0xDFFF) ∨ 0x10FFFF < n then ['\uFFFD']
  else if (1 ≤ n ∧ n ≤ 8) ∨ n = 11 ∨ (14 ≤ n ∧ n ≤ 31) ∨ n = 127 ∨ (0xFDD0 ≤ n ∧ n ≤ 0xFDEF) ∨
      n % 0x10000 = 0xFFFE ∨ n % 0x10000 = 0xFFFF then []
  else [Char.ofNat n]

/-- The characters of the longest known name that begins a text of at least two characters and the rest of the
text; `shorter` counts the lengths still to try. -/
def longestName? (s : List Char) : (shorter : Nat) → Option (List Char)
  | 0 | 1 => none
  | n + 1 =>
    match entities[String.ofList (s.take (n + 1))]? with
    | some image => some (image.toList ++ s.drop (n + 1))
    | none => longestName? s n

/-- What stands for the reference after an ampersand, and how many characters after the ampersand it takes;
nothing where there is no reference. -/
def referenceAt? (s : List Char) : Option (List Char × Nat) :=
  let withSemicolon (body : Nat) : Nat := if s[body]? == some ';' then body + 1 else body
  match s with
  | '#' :: rest =>
    let hex (mark : Char) (r : List Char) : Option (List Char × Nat) :=
      let ds := r.takeWhile fun c => (Json.hexValue? c).isSome
      if ds.isEmpty || !(mark == 'x' || mark == 'X') then none
      else
        some (numbered ((ds.filterMap Json.hexValue?).foldl (fun n d => 16 * n + d) 0),
          withSemicolon (ds.length + 2))
    match rest with
    | c :: r =>
      if c.isDigit then
        let ds := rest.takeWhile Char.isDigit
        some (numbered (ds.foldl (fun n d => 10 * n + (d.toNat - 48)) 0), withSemicolon (ds.length + 1))
      else hex c r
    | [] => none
  | _ =>
    let stops : List Char := ['\t', '\n', '\x0c', ' ', '<', '&', '#', ';']
    let body := (s.takeWhile fun c => !stops.contains c).take 32
    if body.isEmpty then none
    else
      let n := withSemicolon body.length
      let name := s.take n
      match entities[String.ofList name]? with
      | some image => some (image.toList, n)
      | none => some ((longestName? name (n - 1)).getD ('&' :: name), n)

/-- The text with references read; `skip` counts the characters still to pass of the last one. -/
def unescapeFrom (skip : Nat) : List Char → List Char
  | [] => []
  | c :: s =>
    match skip with
    | skip + 1 => unescapeFrom skip s
    | 0 =>
      if c == '&' then
        match referenceAt? s with
        | some (image, n) => image ++ unescapeFrom n s
        | none => c :: unescapeFrom 0 s
      else c :: unescapeFrom 0 s

/-- The text with character references read. -/
def unescape (s : String) : String :=
  String.ofList (unescapeFrom 0 s.toList)

end MetaSearch.Markup
