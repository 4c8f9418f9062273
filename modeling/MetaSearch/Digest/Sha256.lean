/-!
# SHA-256

The digest of a list of bytes as eight words of thirty-two bits: the message is padded to whole blocks, and the
blocks are compressed into the state one after the other.
-/

namespace MetaSearch.Sha256

/-- The words with which the state begins. -/
def start : Array UInt32 :=
  #[0x6a09e667, 0xbb67ae85, 0x3c6ef372, 0xa54ff53a, 0x510e527f, 0x9b05688c, 0x1f83d9ab, 0x5be0cd19]

/-- The words added in the rounds. -/
def roundWords : Array UInt32 :=
  #[0x428a2f98, 0x71374491, 0xb5c0fbcf, 0xe9b5dba5, 0x3956c25b, 0x59f111f1, 0x923f82a4, 0xab1c5ed5,
    0xd807aa98, 0x12835b01, 0x243185be, 0x550c7dc3, 0x72be5d74, 0x80deb1fe, 0x9bdc06a7, 0xc19bf174,
    0xe49b69c1, 0xefbe4786, 0x0fc19dc6, 0x240ca1cc, 0x2de92c6f, 0x4a7484aa, 0x5cb0a9dc, 0x76f988da,
    0x983e5152, 0xa831c66d, 0xb00327c8, 0xbf597fc7, 0xc6e00bf3, 0xd5a79147, 0x06ca6351, 0x14292967,
    0x27b70a85, 0x2e1b2138, 0x4d2c6dfc, 0x53380d13, 0x650a7354, 0x766a0abb, 0x81c2c92e, 0x92722c85,
    0xa2bfe8a1, 0xa81a664b, 0xc24b8b70, 0xc76c51a3, 0xd192e819, 0xd6990624, 0xf40e3585, 0x106aa070,
    0x19a4c116, 0x1e376c08, 0x2748774c, 0x34b0bcb5, 0x391c0cb3, 0x4ed8aa4a, 0x5b9cca4f, 0x682e6ff3,
    0x748f82ee, 0x78a5636f, 0x84c87814, 0x8cc70208, 0x90befffa, 0xa4506ceb, 0xbef9a3f7, 0xc67178f2]

/-- A word turned to the right. -/
def turn (x : UInt32) (n : UInt32) : UInt32 :=
  (x >>> n) ||| (x <<< (32 - n))

/-- The bytes of a number of sixty-four bits, the highest first. -/
def bytes8 (n : Nat) : List UInt8 :=
  (List.range 8).map fun i => UInt8.ofNat (n / Nat.pow 256 (7 - i))

/-- The message with the mark of its end, zeros and its length in bits, a whole number of blocks. -/
def padded (message : List UInt8) : List UInt8 :=
  let zeros := (119 - message.length % 64) % 64
  message ++ 0x80 :: List.replicate zeros 0 ++ bytes8 (message.length * 8)

/-- The words of thirty-two bits that bytes make up. -/
def words : List UInt8 → List UInt32
  | a :: b :: c :: d :: rest =>
    (a.toUInt32 <<< 24 ||| b.toUInt32 <<< 16 ||| c.toUInt32 <<< 8 ||| d.toUInt32) :: words rest
  | _ => []

/-- The next word of a block's schedule. -/
def nextWord (w : Array UInt32) : UInt32 :=
  let i := w.size
  let a := w.getD (i - 15) 0
  let b := w.getD (i - 2) 0
  let s0 := turn a 7 ^^^ turn a 18 ^^^ (a >>> 3)
  let s1 := turn b 17 ^^^ turn b 19 ^^^ (b >>> 10)
  w.getD (i - 16) 0 + s0 + w.getD (i - 7) 0 + s1

/-- The schedule of a block of sixteen words. -/
def schedule (block : List UInt32) : Array UInt32 :=
  (List.range 48).foldl (fun w _ => w.push (nextWord w)) block.toArray

/-- One round with the word of the schedule and the word of the round. -/
def round (s : Array UInt32) (w k : UInt32) : Array UInt32 :=
  let at' := fun i => s.getD i 0
  let (a, b, c, e, f, g) := (at' 0, at' 1, at' 2, at' 4, at' 5, at' 6)
  let t1 := at' 7 + (turn e 6 ^^^ turn e 11 ^^^ turn e 25) + ((e &&& f) ^^^ (~~~e &&& g)) + k + w
  let t2 := (turn a 2 ^^^ turn a 13 ^^^ turn a 22) + ((a &&& b) ^^^ (a &&& c) ^^^ (b &&& c))
  #[t1 + t2, a, b, c, at' 3 + t1, e, f, g]

/-- The state after a block. -/
def compress (state : Array UInt32) (block : List UInt32) : Array UInt32 :=
  let w := schedule block
  let last := (List.range 64).foldl (fun s i => round s (w.getD i 0) (roundWords.getD i 0)) state
  Array.zipWith (· + ·) state last

/-- The state after the first `count` blocks of the words. -/
def compressAll : (count : Nat) → Array UInt32 → List UInt32 → Array UInt32
  | 0, state, _ => state
  | count + 1, state, ws => compressAll count (compress state (ws.take 16)) (ws.drop 16)

/-- The digest of a message. -/
def digest (message : List UInt8) : Array UInt32 :=
  let ws := words (padded message)
  compressAll (ws.length / 16) start ws

/-- The hexadecimal digits of a word, in small letters. -/
def hexText (w : UInt32) : String :=
  let digits := Nat.toDigits 16 w.toNat
  String.ofList (List.replicate (8 - digits.length) '0' ++ digits)

/-- The digest of a message in hexadecimal digits. -/
def hexDigest (message : List UInt8) : String :=
  String.join ((digest message).toList.map hexText)

theorem length_padded (message : List UInt8) : (padded message).length % 64 = 0 := by
  simp only [padded, bytes8, List.length_append, List.length_cons, List.length_replicate, List.length_map,
    List.length_range]
  omega

end MetaSearch.Sha256
