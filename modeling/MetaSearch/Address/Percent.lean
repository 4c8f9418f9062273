import MetaSearch.Datum.Json
import MetaSearch.Text.Basic
import MetaSearch.Text.Utf8

/-!
# Percent encoding

Characters outside a safe set are written as their bytes, each a percent sign and two hexadecimal digits.
Decoding is lossy: bytes that are no text become replacement characters, and a percent sign without two digits
stays.
-/

namespace MetaSearch.Percent

/-- Letters, digits and the four marks that are never encoded. -/
def isUnreserved (c : Char) : Bool :=
  c.isAlphanum || c == '-' || c == '.' || c == '_' || c == '~'

/-- The hexadecimal digit of a number below 16, in capitals. -/
def hexDigit (n : Nat) : Char :=
  if n < 10 then Char.ofNat (48 + n) else Char.ofNat (55 + n)

/-- A byte as a percent sign and two digits. -/
def byte (b : UInt8) : List Char :=
  ['%', hexDigit (b.toNat / 16), hexDigit (b.toNat % 16)]

/-- A character, encoded unless it is safe. -/
def char (safe : Char → Bool) (c : Char) : List Char :=
  if isUnreserved c || safe c then [c] else (Utf8.encodeChar c).flatMap byte

/-- The text with all but unreserved and safe characters encoded. -/
def encode (safe : Char → Bool) (s : List Char) : List Char :=
  s.flatMap (char safe)

/-- The text with all but unreserved characters and those of `safe` encoded. -/
def quote (safe s : String) : String :=
  String.ofList (encode (safe.toList.contains ·) s.toList)

/-- The bytes of a text in which every percent sign before two hexadecimal digits stands, with those, for a
byte. -/
def bytes : List Char → List UInt8
  | '%' :: a :: b :: s =>
    match Json.hexValue? a, Json.hexValue? b with
    | some x, some y => (16 * x + y).toUInt8 :: bytes s
    | _, _ => 37 :: bytes (a :: b :: s)
  | c :: s => Utf8.encodeChar c ++ bytes s
  | [] => []

/-- The decoded text of characters of which none lies outside ASCII. -/
def decodeRun (s : List Char) : List Char :=
  Utf8.decodeLossy (bytes s)

/-- The text with each run of ASCII characters decoded, after the characters of the open run, last first. -/
def decodeFrom (run : List Char) : List Char → List Char
  | [] => decodeRun run.reverse
  | c :: s =>
    if c.toNat < 128 then decodeFrom (c :: run) s
    else decodeRun run.reverse ++ c :: decodeFrom [] s

/-- The text with percent signs decoded. -/
def decode (s : String) : String :=
  if s.toList.contains '%' then String.ofList (decodeFrom [] s.toList) else s

/-- The encoded text of a form field: a space is a plus sign. -/
def formText (s : String) : String :=
  Text.replace "%20" "+" (quote "" s)

/-- The text of a form field: a plus sign is a space. -/
def formDecode (s : String) : String :=
  decode (Text.replace "+" " " s)

/-- Fields as the text of a form: names and values encoded, `=` between and `&` after each but the last. -/
def form (fields : List (String × String)) : String :=
  "&".intercalate (fields.map fun (name, value) => formText name ++ "=" ++ formText value)

/-- The fields of a query. A part without `=` has an empty value; empty parts are passed over. -/
def fields (query : String) : List (String × String) :=
  (Text.split "&" query).filterMap fun part =>
    if part.isEmpty then none
    else
      match Text.cutAt? "=" part with
      | some (name, value) => some (formDecode name, formDecode value)
      | none => some (formDecode part, "")

end MetaSearch.Percent
