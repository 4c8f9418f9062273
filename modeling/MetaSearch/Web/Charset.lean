import MetaSearch.Text.Basic
import MetaSearch.Text.Blank
import MetaSearch.Text.Utf8
import MetaSearch.Web.CodePage

/-!
# Character sets

The text of an answer is sent as bytes in the character set that its content type names. Sets of single bytes are
tables of their upper half; a byte that stands for nothing becomes a replacement character.
-/

namespace MetaSearch

/-- A character set. -/
inductive Charset where
  | utf8
  /-- Bytes below 128 stand for themselves, those above for the entries of a table. -/
  | single (upper : List Nat)
  deriving DecidableEq, Repr, Inhabited

namespace Charset

/-- The number of the replacement character. -/
def missing : Nat := 0xFFFD

/-- Numbers in a row. -/
def run (first count : Nat) : List Nat := (List.range count).map (first + ·)

/-- A table with other entries at some positions. -/
def patched (table : List Nat) (patches : List (Nat × Nat)) : List Nat :=
  table.mapIdx fun i n => (List.lookup (i + 128) patches).getD n

/-- The set of ASCII characters. -/
def ascii : Charset := single (List.replicate 128 missing)

/-- The set of Western European characters. -/
def western : Charset := single (run 128 128)

/-- The set of Western European characters with the sign of the euro. -/
def westernEuro : Charset :=
  single (patched (run 128 128)
    [(0xA4, 0x20AC), (0xA6, 0x160), (0xA8, 0x161), (0xB4, 0x17D), (0xB8, 0x17E), (0xBC, 0x152), (0xBD, 0x153),
     (0xBE, 0x178)])

/-- The set of Western European characters with typographic marks. -/
def windowsWestern : Charset :=
  single ([0x20AC, missing, 0x201A, 0x192, 0x201E, 0x2026, 0x2020, 0x2021, 0x2C6, 0x2030, 0x160, 0x2039, 0x152,
    missing, 0x17D, missing, missing, 0x2018, 0x2019, 0x201C, 0x201D, 0x2022, 0x2013, 0x2014, 0x2DC, 0x2122,
    0x161, 0x203A, 0x153, missing, 0x17E, 0x178] ++ run 0xA0 96)

/-- The set of Cyrillic characters with typographic marks. -/
def windowsCyrillic : Charset :=
  single ([0x402, 0x403, 0x201A, 0x453, 0x201E, 0x2026, 0x2020, 0x2021, 0x20AC, 0x2030, 0x409, 0x2039, 0x40A,
    0x40C, 0x40B, 0x40F, 0x452, 0x2018, 0x2019, 0x201C, 0x201D, 0x2022, 0x2013, 0x2014, missing, 0x2122, 0x459,
    0x203A, 0x45A, 0x45C, 0x45B, 0x45F, 0xA0, 0x40E, 0x45E, 0x408, 0xA4, 0x490, 0xA6, 0xA7, 0x401, 0xA9, 0x404,
    0xAB, 0xAC, 0xAD, 0xAE, 0x407, 0xB0, 0xB1, 0x406, 0x456, 0x491, 0xB5, 0xB6, 0xB7, 0x451, 0x2116, 0x454,
    0xBB, 0x458, 0x405, 0x455, 0x457] ++ run 0x410 64)

/-- The sets, each with its names; a name has underscores for all that is no letter or digit. -/
def named : List (Charset × List String) :=
  [(utf8, ["utf_8", "utf8", "u8", "utf", "cp65001"]),
   (ascii, ["ascii", "us_ascii", "646", "us", "iso646_us"]),
   (western, ["latin_1", "latin1", "latin", "l1", "iso_8859_1", "iso8859_1", "iso8859", "8859", "cp819",
     "iso_ir_100"]),
   (westernEuro, ["iso_8859_15", "iso8859_15", "latin9", "l9"]),
   (windowsWestern, ["cp1252", "windows_1252", "1252"]),
   (windowsCyrillic, ["cp1251", "windows_1251", "1251"]),
   (single CodePage.central, ["iso_8859_2", "iso8859_2", "iso_8859_2_1987", "iso_ir_101", "latin2", "l2"]),
   (single CodePage.cyrillic, ["iso_8859_5", "iso8859_5", "iso_8859_5_1988", "iso_ir_144", "cyrillic"]),
   (single CodePage.greek, ["iso_8859_7", "iso8859_7", "iso_8859_7_1987", "iso_ir_126", "greek", "greek8"]),
   (single CodePage.turkish, ["iso_8859_9", "iso8859_9", "iso_8859_9_1989", "iso_ir_148", "latin5", "l5"]),
   (single CodePage.baltic, ["iso_8859_13", "iso8859_13", "latin7", "l7"]),
   (single CodePage.windowsCentral, ["cp1250", "windows_1250", "1250"]),
   (single CodePage.windowsGreek, ["cp1253", "windows_1253", "1253"]),
   (single CodePage.windowsTurkish, ["cp1254", "windows_1254", "1254"]),
   (single CodePage.windowsBaltic, ["cp1257", "windows_1257", "1257"]),
   (single CodePage.russianExchange, ["koi8_r", "cskoi8r"]),
   (single CodePage.ukrainianExchange, ["koi8_u"]),
   (single CodePage.russianConsole, ["cp866", "866", "ibm866", "csibm866"])]

/-- The set with a name. -/
def ofName? (name : String) : Option Charset :=
  let words := Text.fieldsBy (fun c => !(c.isAlphanum || c == '.')) (name.toList.map Char.toLower)
  let name := "_".intercalate (words.map String.ofList)
  (named.find? fun (_, names) => names.contains name).map Prod.fst

/-- The text of bytes in a set. -/
def decode : Charset → List UInt8 → String
  | utf8, bytes => String.ofList (Utf8.decodeLossy bytes)
  | single upper, bytes =>
    String.ofList (bytes.map fun b =>
      if b.toNat < 128 then Char.ofNat b.toNat else Char.ofNat (upper.getD (b.toNat - 128) missing))

end Charset

/-- The parts of a header's value between semicolons outside of quotes; `part` holds the characters of the open
one, last first. -/
def headerParts (part : List Char) (quoted : Bool) : List Char → List (List Char)
  | [] => [part.reverse]
  | '\\' :: '"' :: s => headerParts ('"' :: '\\' :: part) quoted s
  | '"' :: s => headerParts ('"' :: part) (!quoted) s
  | ';' :: s => if quoted then headerParts (';' :: part) quoted s else part.reverse :: headerParts [] false s
  | c :: s => headerParts (c :: part) quoted s

/-- A parameter's value without its quotes. -/
def unquoted (s : String) : String :=
  if 1 < s.length && Text.startsWith s "\"" && Text.endsWith s "\"" then
    Text.replace "\\\"" "\"" (Text.replace "\\\\" "\\" (Text.drop 1 (Text.take (s.length - 1) s)))
  else if 1 < s.length && Text.startsWith s "<" && Text.endsWith s ">" then
    Text.drop 1 (Text.take (s.length - 1) s)
  else s

/-- The name of the character set that a content type names, in small letters. -/
def charsetName? (contentType : String) : Option String :=
  let named := (headerParts [] false contentType.toList).filterMap fun part =>
    match Text.cut? ['='] part with
    | some (name, value) =>
      if Text.strip (String.ofList (name.map Char.toLower)) == "charset" then
        some (unquoted (Text.strip (String.ofList value)))
      else none
    | none => if Text.strip (String.ofList (part.map Char.toLower)) == "charset" then some "" else none
  match named with
  | name :: _ =>
    if name.toList.all (·.toNat < 128) then some (String.ofList (name.toList.map Char.toLower)) else none
  | [] => none

end MetaSearch
