import MetaSearch.Datum.Json
import MetaSearch.Text.Utf8

/-!
# JSON in bytes

A document may be sent in units of one, two or four bytes. A mark at its beginning tells which; without a mark the
zeros among its first bytes do, as a document begins with a character of ASCII. Half of a pair of units that stands
alone does not spoil the document, it becomes the replacement character.
-/

namespace MetaSearch.Json

/-- The size of the units of a text, and whether the low byte of a unit comes first. -/
inductive Encoding where
  | bytes
  | pairs (lowFirst : Bool)
  | quads (lowFirst : Bool)
  deriving DecidableEq, Repr, Inhabited

namespace Encoding

/-- The encoding of bytes without a mark. -/
def ofZeros : List UInt8 → Encoding
  | a :: b :: c :: d :: _ =>
    if a = 0 then (if b = 0 then quads false else pairs false)
    else if b = 0 then (if c = 0 ∧ d = 0 then quads true else pairs true)
    else bytes
  | [a, b] => if a = 0 then pairs false else if b = 0 then pairs true else bytes
  | _ => bytes

/-- The encoding of bytes, and the bytes behind the mark. -/
def detect : List UInt8 → Encoding × List UInt8
  | 0x00 :: 0x00 :: 0xFE :: 0xFF :: rest => (quads false, rest)
  | 0xFF :: 0xFE :: 0x00 :: 0x00 :: rest => (quads true, rest)
  | 0xFE :: 0xFF :: rest => (pairs false, rest)
  | 0xFF :: 0xFE :: rest => (pairs true, rest)
  | 0xEF :: 0xBB :: 0xBF :: rest => (bytes, rest)
  | content => (ofZeros content, content)

end Encoding

/-- Bytes with the replacement character in place of each half of a pair. -/
def withoutHalves : List UInt8 → List UInt8
  | 0xED :: b :: c :: rest =>
    if 0xA0 ≤ b ∧ b < 0xC0 ∧ 0x80 ≤ c ∧ c < 0xC0 then 0xEF :: 0xBF :: 0xBD :: withoutHalves rest
    else 0xED :: withoutHalves (b :: c :: rest)
  | b :: rest => b :: withoutHalves rest
  | [] => []

/-- The number that bytes make up, the highest first. -/
def ofBytes (bs : List UInt8) : Nat := bs.foldl (fun n b => n * 256 + b.toNat) 0

/-- The units of two bytes; none where a byte is left over. -/
def pairUnits? (lowFirst : Bool) : List UInt8 → Option (List Nat)
  | [] => some []
  | a :: b :: rest => (pairUnits? lowFirst rest).map (ofBytes (if lowFirst then [b, a] else [a, b]) :: ·)
  | _ => none

/-- The units of four bytes; none where bytes are left over. -/
def quadUnits? (lowFirst : Bool) : List UInt8 → Option (List Nat)
  | [] => some []
  | a :: b :: c :: d :: rest =>
    (quadUnits? lowFirst rest).map (ofBytes (if lowFirst then [d, c, b, a] else [a, b, c, d]) :: ·)
  | _ => none

/-- The characters of units of two bytes. -/
def ofPairUnits : List Nat → List Char
  | n :: m :: rest =>
    if 0xD800 ≤ n ∧ n < 0xDC00 ∧ 0xDC00 ≤ m ∧ m < 0xE000 then
      Char.ofNat (0x10000 + (n - 0xD800) * 0x400 + (m - 0xDC00)) :: ofPairUnits rest
    else unitChar n :: ofPairUnits (m :: rest)
  | [n] => [unitChar n]
  | [] => []

/-- The character of a unit of four bytes; none beyond the last. -/
def ofQuadUnit? (n : Nat) : Option Char :=
  if n < 0x110000 then some (unitChar n) else none

/-- The text of bytes, in the encoding that they show. -/
def decode? (content : List UInt8) : Option (List Char) :=
  match Encoding.detect content with
  | (.bytes, rest) => Utf8.decode? (withoutHalves rest)
  | (.pairs lowFirst, rest) => (pairUnits? lowFirst rest).map ofPairUnits
  | (.quads lowFirst, rest) => (quadUnits? lowFirst rest).bind (·.mapM ofQuadUnit?)

/-- The value that the text of bytes spells. -/
def parseBytes? (content : List UInt8) : Option Datum := do
  parse? (String.ofList (← decode? content))

end MetaSearch.Json
