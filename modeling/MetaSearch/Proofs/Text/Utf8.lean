import MetaSearch.Text.Utf8
import Mathlib.Data.List.Basic

/-!
# Texts read back from their bytes

`decodeLossy_encode` says that a text comes back from its bytes.  It comes from `scan_encodeChar`, which is about one
character by the number of its bytes, and from `scan_append_encodeChar`: a character is read for itself whatever bytes
stand before it, because its first byte is never one that others wait for.  So decoding falls apart at every character
that stands for itself (`decodeLossy_append`).
-/

namespace MetaSearch.Utf8

/-! ## One byte -/

/-- A small number as a byte. -/
theorem toNat_toUInt8 {n : Nat} (h : n < 256) : n.toUInt8.toNat = n := by
  change n % 256 = n
  omega

/-- A byte that fits in what decoding waits for. -/
theorem scan_pending {p : Pending} {b : UInt8} (hlow : p.low ≤ b.toNat) (hhigh : b.toNat ≤ p.high) (bs : List UInt8) :
    scan (some p) (b :: bs) =
      if p.owed ≤ 1 then some (Char.ofNat (p.bits * 0x40 + b.toNat % 0x40)) :: scan none bs
      else scan (some ⟨p.owed - 1, 0x80, 0xBF, p.bits * 0x40 + b.toNat % 0x40⟩) bs := by
  rw [scan, if_pos ⟨hlow, hhigh⟩]

/-- A byte that does not fit ends what decoding waits for, and begins anew. -/
theorem scan_mismatch {p : Pending} {b : UInt8} (h : ¬ (p.low ≤ b.toNat ∧ b.toNat ≤ p.high)) (bs : List UInt8) :
    scan (some p) (b :: bs) = none :: scan none (b :: bs) := by
  simp only [scan]
  rw [if_neg h]
  rcases lead? b.toNat with _ | ⟨_ | owed, low, high, bits⟩ <;> rfl

/-- A lead byte and what it announces. -/
theorem scan_lead {b : UInt8} {owed low high bits : Nat} (h : lead? b.toNat = some (owed + 1, low, high, bits))
    (bs : List UInt8) : scan none (b :: bs) = scan (some ⟨owed + 1, low, high, bits⟩) bs := by
  simp only [scan, h]

/-- Whatever a lead byte announces begins a byte that leads nothing. -/
theorem lead?_bounds {b owed low high bits : Nat} (h : lead? b = some (owed + 1, low, high, bits)) :
    0x80 ≤ low ∧ high ≤ 0xBF := by
  unfold lead? at h
  split at h
  · simp at h
  · repeat' first | split at h | simp at h | omega

/-! ## One character -/

/-- A character of two bytes announces the second one. -/
theorem lead?_two {n : Nat} (hlow : 0x80 ≤ n) (hhigh : n < 0x800) :
    lead? (0xC0 + n / 0x40) = some (1, 0x80, 0xBF, n / 0x40) := by
  have h₁ : ¬ 0xC0 + n / 0x40 < 0x80 := by omega
  have h₂ : ¬ 0xC0 + n / 0x40 < 0xC2 := by omega
  have h₃ : 0xC0 + n / 0x40 < 0xE0 := by omega
  have hbits : (0xC0 + n / 0x40) % 0x20 = n / 0x40 := by omega
  rw [lead?, if_neg h₁, if_neg h₂, if_pos h₃, hbits]

/-- A character of three bytes announces two more, of which the first fits. -/
theorem lead?_three {n : Nat} (hlow : 0x800 ≤ n) (hhigh : n < 0x10000) (hchar : n < 0xD800 ∨ 0xDFFF < n) :
    ∃ low high, lead? (0xE0 + n / 0x1000) = some (2, low, high, n / 0x1000) ∧
      low ≤ 0x80 + n / 0x40 % 0x40 ∧ 0x80 + n / 0x40 % 0x40 ≤ high := by
  have h₁ : ¬ 0xE0 + n / 0x1000 < 0x80 := by omega
  have h₂ : ¬ 0xE0 + n / 0x1000 < 0xC2 := by omega
  have h₃ : ¬ 0xE0 + n / 0x1000 < 0xE0 := by omega
  rw [lead?, if_neg h₁, if_neg h₂, if_neg h₃]
  by_cases hfirst : 0xE0 + n / 0x1000 = 0xE0
  · have hbits : n / 0x1000 = 0 := by omega
    exact ⟨_, _, by rw [if_pos hfirst, hbits], by omega, by omega⟩
  · rw [if_neg hfirst]
    by_cases hsurrogates : 0xE0 + n / 0x1000 = 0xED
    · have hbits : n / 0x1000 = 0xD := by omega
      exact ⟨_, _, by rw [if_pos hsurrogates, hbits], by omega, by omega⟩
    · have h₄ : 0xE0 + n / 0x1000 < 0xF0 := by omega
      have hbits : (0xE0 + n / 0x1000) % 0x10 = n / 0x1000 := by omega
      exact ⟨_, _, by rw [if_neg hsurrogates, if_pos h₄, hbits], by omega, by omega⟩

/-- A character of four bytes announces three more, of which the first fits. -/
theorem lead?_four {n : Nat} (hlow : 0x10000 ≤ n) (hhigh : n < 0x110000) :
    ∃ low high, lead? (0xF0 + n / 0x40000) = some (3, low, high, n / 0x40000) ∧
      low ≤ 0x80 + n / 0x1000 % 0x40 ∧ 0x80 + n / 0x1000 % 0x40 ≤ high := by
  have h₁ : ¬ 0xF0 + n / 0x40000 < 0x80 := by omega
  have h₂ : ¬ 0xF0 + n / 0x40000 < 0xC2 := by omega
  have h₃ : ¬ 0xF0 + n / 0x40000 < 0xE0 := by omega
  have h₄ : ¬ 0xF0 + n / 0x40000 = 0xE0 := by omega
  have h₅ : ¬ 0xF0 + n / 0x40000 = 0xED := by omega
  have h₆ : ¬ 0xF0 + n / 0x40000 < 0xF0 := by omega
  rw [lead?, if_neg h₁, if_neg h₂, if_neg h₃, if_neg h₄, if_neg h₅, if_neg h₆]
  by_cases hfirst : 0xF0 + n / 0x40000 = 0xF0
  · have hbits : n / 0x40000 = 0 := by omega
    exact ⟨_, _, by rw [if_pos hfirst, hbits], by omega, by omega⟩
  · rw [if_neg hfirst]
    by_cases hlast : 0xF0 + n / 0x40000 < 0xF4
    · have hbits : (0xF0 + n / 0x40000) % 8 = n / 0x40000 := by omega
      exact ⟨_, _, by rw [if_pos hlast, hbits], by omega, by omega⟩
    · have hbits : 0xF0 + n / 0x40000 = 0xF4 := by omega
      have hgreatest : n / 0x40000 = 4 := by omega
      exact ⟨_, _, by rw [if_neg hlast, if_pos hbits, hgreatest], by omega, by omega⟩

/-- A byte that continues a character adds six bits. -/
theorem scan_next {owed low high bits m : Nat} (hlow : low ≤ 0x80 + m % 0x40) (hhigh : 0x80 + m % 0x40 ≤ high)
    (bs : List UInt8) :
    scan (some ⟨owed, low, high, bits⟩) ((0x80 + m % 0x40).toUInt8 :: bs) =
      if owed ≤ 1 then some (Char.ofNat (bits * 0x40 + m % 0x40)) :: scan none bs
      else scan (some ⟨owed - 1, 0x80, 0xBF, bits * 0x40 + m % 0x40⟩) bs := by
  have hbyte : (0x80 + m % 0x40).toUInt8.toNat = 0x80 + m % 0x40 := toNat_toUInt8 (by omega)
  have hbits : (0x80 + m % 0x40) % 0x40 = m % 0x40 := by omega
  rw [scan_pending (by rw [hbyte]; exact hlow) (by rw [hbyte]; exact hhigh), hbyte, hbits]

/-- A number of one byte. -/
theorem scan_one {n : Nat} (h : n < 0x80) (bs : List UInt8) :
    scan none (n.toUInt8 :: bs) = some (Char.ofNat n) :: scan none bs := by
  have hlead : lead? n.toUInt8.toNat = some (0, 0, 0, n) := by rw [toNat_toUInt8 (by omega), lead?, if_pos h]
  simp only [scan, hlead]

/-- A number of two bytes. -/
theorem scan_two {n : Nat} (hlow : 0x80 ≤ n) (hhigh : n < 0x800) (bs : List UInt8) :
    scan none ((0xC0 + n / 0x40).toUInt8 :: (0x80 + n % 0x40).toUInt8 :: bs) =
      some (Char.ofNat n) :: scan none bs := by
  have hlead := lead?_two hlow hhigh
  rw [← toNat_toUInt8 (show 0xC0 + n / 0x40 < 256 by omega)] at hlead
  have hbits : n / 0x40 * 0x40 + n % 0x40 = n := by omega
  rw [scan_lead hlead, scan_next (by omega) (by omega), if_pos (by omega), hbits]

/-- A number of three bytes. -/
theorem scan_three {n : Nat} (hlow : 0x800 ≤ n) (hhigh : n < 0x10000) (hchar : n < 0xD800 ∨ 0xDFFF < n)
    (bs : List UInt8) :
    scan none ((0xE0 + n / 0x1000).toUInt8 :: (0x80 + n / 0x40 % 0x40).toUInt8 :: (0x80 + n % 0x40).toUInt8 :: bs) =
      some (Char.ofNat n) :: scan none bs := by
  obtain ⟨low, high, hlead, hfits, hfits'⟩ := lead?_three hlow hhigh hchar
  rw [← toNat_toUInt8 (show 0xE0 + n / 0x1000 < 256 by omega)] at hlead
  have hbits : (n / 0x1000 * 0x40 + n / 0x40 % 0x40) * 0x40 + n % 0x40 = n := by omega
  rw [scan_lead hlead, scan_next hfits hfits', if_neg (by omega), scan_next (by omega) (by omega), if_pos (by omega),
    hbits]

/-- A number of four bytes. -/
theorem scan_four {n : Nat} (hlow : 0x10000 ≤ n) (hhigh : n < 0x110000) (bs : List UInt8) :
    scan none ((0xF0 + n / 0x40000).toUInt8 :: (0x80 + n / 0x1000 % 0x40).toUInt8 ::
        (0x80 + n / 0x40 % 0x40).toUInt8 :: (0x80 + n % 0x40).toUInt8 :: bs) =
      some (Char.ofNat n) :: scan none bs := by
  obtain ⟨low, high, hlead, hfits, hfits'⟩ := lead?_four hlow hhigh
  rw [← toNat_toUInt8 (show 0xF0 + n / 0x40000 < 256 by omega)] at hlead
  have hbits : ((n / 0x40000 * 0x40 + n / 0x1000 % 0x40) * 0x40 + n / 0x40 % 0x40) * 0x40 + n % 0x40 = n := by omega
  rw [scan_lead hlead, scan_next hfits hfits', if_neg (by omega), scan_next (by omega) (by omega), if_neg (by omega),
    scan_next (by omega) (by omega), if_pos (by omega), hbits]

/-- **The bytes of a character are read as that character.** -/
theorem scan_encodeChar (c : Char) (bs : List UInt8) : scan none (encodeChar c ++ bs) = some c :: scan none bs := by
  have hvalid : c.toNat < 0xD800 ∨ 0xDFFF < c.toNat ∧ c.toNat < 0x110000 := c.valid
  have hback : Char.ofNat c.toNat = c := Char.ofNat_toNat c
  simp only [encodeChar]
  split
  · rename_i h
    exact (scan_one h bs).trans (by rw [hback])
  · rename_i hone
    split
    · rename_i h
      exact (scan_two (by omega) h bs).trans (by rw [hback])
    · rename_i htwo
      split
      · rename_i h
        exact (scan_three (by omega) h (by omega) bs).trans (by rw [hback])
      · rename_i hthree
        exact (scan_four (by omega) (by omega) bs).trans (by rw [hback])

/-! ## Whole texts -/

/-- A text comes back from its bytes, whatever stands behind them. -/
theorem scan_encode (s : List Char) (bs : List UInt8) : scan none (encode s ++ bs) = s.map some ++ scan none bs := by
  induction s with
  | nil => rfl
  | cons c s ih =>
      rw [encode, List.flatMap_cons, List.append_assoc, scan_encodeChar, ← encode, ih]
      rfl

/-- **A text comes back from its bytes.** -/
theorem decodeLossy_encode (s : List Char) : decodeLossy (encode s) = s := by
  have hscan := scan_encode s []
  rw [List.append_nil] at hscan
  rw [decodeLossy, hscan, scan, List.append_nil, List.map_map]
  exact List.map_id s

/-- The first byte of a character is never one that others wait for. -/
theorem head_encodeChar (c : Char) : ∃ b bs, encodeChar c = b :: bs ∧ (b.toNat < 0x80 ∨ 0xBF < b.toNat) := by
  have hvalid : c.toNat < 0xD800 ∨ 0xDFFF < c.toNat ∧ c.toNat < 0x110000 := c.valid
  simp only [encodeChar]
  split
  · exact ⟨_, _, rfl, .inl (by rw [toNat_toUInt8] <;> omega)⟩
  · split
    · exact ⟨_, _, rfl, .inr (by rw [toNat_toUInt8] <;> omega)⟩
    · split
      · exact ⟨_, _, rfl, .inr (by rw [toNat_toUInt8] <;> omega)⟩
      · exact ⟨_, _, rfl, .inr (by rw [toNat_toUInt8] <;> omega)⟩

/-- What decoding waits for is a byte that leads nothing. -/
def Pending.IsInside (p : Pending) : Prop := 0x80 ≤ p.low ∧ p.high ≤ 0xBF

/-- **A character is read for itself, whatever stands before it.** -/
theorem scan_append_encodeChar (c : Char) (bs front : List UInt8) {p : Option Pending}
    (hp : ∀ q ∈ p, q.IsInside) :
    scan p (front ++ (encodeChar c ++ bs)) = scan p front ++ some c :: scan none bs := by
  induction front generalizing p with
  | nil =>
      cases p with
      | none =>
          rw [List.nil_append, scan_encodeChar]
          rfl
      | some q =>
          obtain ⟨b, rest, hbytes, hb⟩ := head_encodeChar c
          have hq := hp q rfl
          have hmismatch : ¬ (q.low ≤ b.toNat ∧ b.toNat ≤ q.high) := by
            have := hq.1
            have := hq.2
            omega
          have hchar := scan_encodeChar c bs
          rw [hbytes, List.cons_append] at hchar
          rw [List.nil_append, hbytes, List.cons_append, scan_mismatch hmismatch, hchar]
          rfl
  | cons b front ih =>
      have hfresh : scan none (b :: front ++ (encodeChar c ++ bs)) = scan none (b :: front) ++ some c :: scan none bs := by
        rw [List.cons_append]
        rcases hlead : lead? b.toNat with _ | ⟨_ | owed, low, high, bits⟩
        · simp only [scan, hlead, List.cons_append, ih (p := none) (by simp)]
        · simp only [scan, hlead, List.cons_append, ih (p := none) (by simp)]
        · rw [scan_lead hlead, scan_lead hlead]
          exact ih fun q hq => by
            rw [← Option.some.inj hq]
            exact lead?_bounds hlead
      cases p with
      | none => exact hfresh
      | some q =>
          rw [List.cons_append] at hfresh ⊢
          by_cases hfits : q.low ≤ b.toNat ∧ b.toNat ≤ q.high
          · rw [scan_pending hfits.1 hfits.2, scan_pending hfits.1 hfits.2]
            split
            · rw [ih (p := none) (by simp), List.cons_append]
            · exact ih fun r hr => by
                rw [← Option.some.inj hr]
                exact ⟨Nat.le_refl _, Nat.le_refl _⟩
          · rw [scan_mismatch hfits, scan_mismatch hfits, hfresh, List.cons_append]

/-- Decoding falls apart at a character. -/
theorem decodeLossy_append (c : Char) (front bs : List UInt8) :
    decodeLossy (front ++ (encodeChar c ++ bs)) = decodeLossy front ++ c :: decodeLossy bs := by
  simp [decodeLossy, scan_append_encodeChar c bs front (p := none) (by simp)]

end MetaSearch.Utf8
