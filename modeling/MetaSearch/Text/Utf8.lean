/-!
# Texts as bytes

The eight-bit encoding of texts and its two inverses: `decode?` refuses ill-formed bytes, `decodeLossy` puts a
replacement character in place of each longest run of bytes that begins a character but does not complete it.
-/

namespace MetaSearch.Utf8

/-- The bytes of a character. -/
def encodeChar (c : Char) : List UInt8 :=
  let n := c.toNat
  if n < 0x80 then [n.toUInt8]
  else if n < 0x800 then [(0xC0 + n / 0x40).toUInt8, (0x80 + n % 0x40).toUInt8]
  else if n < 0x10000 then
    [(0xE0 + n / 0x1000).toUInt8, (0x80 + n / 0x40 % 0x40).toUInt8, (0x80 + n % 0x40).toUInt8]
  else
    [(0xF0 + n / 0x40000).toUInt8, (0x80 + n / 0x1000 % 0x40).toUInt8,
      (0x80 + n / 0x40 % 0x40).toUInt8, (0x80 + n % 0x40).toUInt8]

/-- The bytes of a text. -/
def encode (s : List Char) : List UInt8 :=
  s.flatMap encodeChar

/-- What a lead byte announces: the number of bytes to follow, the least and greatest first of them, and the
bits that the lead byte gives. -/
def lead? (b : Nat) : Option (Nat × Nat × Nat × Nat) :=
  if b < 0x80 then some (0, 0, 0, b)
  else if b < 0xC2 then none
  else if b < 0xE0 then some (1, 0x80, 0xBF, b % 0x20)
  else if b = 0xE0 then some (2, 0xA0, 0xBF, 0)
  else if b = 0xED then some (2, 0x80, 0x9F, 0xD)
  else if b < 0xF0 then some (2, 0x80, 0xBF, b % 0x10)
  else if b = 0xF0 then some (3, 0x90, 0xBF, 0)
  else if b < 0xF4 then some (3, 0x80, 0xBF, b % 8)
  else if b = 0xF4 then some (3, 0x80, 0x8F, 4)
  else none

/-- What decoding is in the middle of: the bytes still owed, the bounds of the next one and the bits so
far. -/
structure Pending where
  owed : Nat
  low : Nat
  high : Nat
  bits : Nat

/-- The characters of bytes, `none` for each run of bytes that is no character. -/
def scan : Option Pending → List UInt8 → List (Option Char)
  | none, [] => []
  | some _, [] => [none]
  | none, b :: bs =>
    match lead? b.toNat with
    | none => none :: scan none bs
    | some (0, _, _, bits) => some (Char.ofNat bits) :: scan none bs
    | some (owed, low, high, bits) => scan (some ⟨owed, low, high, bits⟩) bs
  | some p, b :: bs =>
    let n := b.toNat
    if p.low ≤ n ∧ n ≤ p.high then
      let bits := p.bits * 0x40 + n % 0x40
      if p.owed ≤ 1 then some (Char.ofNat bits) :: scan none bs
      else scan (some ⟨p.owed - 1, 0x80, 0xBF, bits⟩) bs
    else
      match lead? n with
      | none => none :: none :: scan none bs
      | some (0, _, _, bits) => none :: some (Char.ofNat bits) :: scan none bs
      | some (owed, low, high, bits) => none :: scan (some ⟨owed, low, high, bits⟩) bs

/-- The text of bytes, a replacement character for each run of bytes that is no character. -/
def decodeLossy (bs : List UInt8) : List Char :=
  (scan none bs).map (·.getD '\uFFFD')

/-- The text of bytes that are all characters. -/
def decode? (bs : List UInt8) : Option (List Char) :=
  (scan none bs).mapM id

end MetaSearch.Utf8
