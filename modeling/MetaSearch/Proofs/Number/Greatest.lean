import MetaSearch.Number.Binary64
import Mathlib.Tactic.SplitIfs

/-!
# The greatest whole numbers

A whole number has a floating-point value next to it unless it is too great.  `ofInt?_isSome_iff` says from where on: a
number that would be rounded to 2^1024 has none, and those are the numbers from 2^1024 - 2^970 on.
-/

namespace MetaSearch.Binary64

theorem roundDiv_le (num den : Nat) : roundDiv num den ≤ num / den + 1 := by
  simp only [roundDiv]
  split_ifs <;> omega

theorem le_roundDiv (num den : Nat) : num / den ≤ roundDiv num den := by
  simp only [roundDiv]
  split_ifs <;> omega

/-- Rounding reaches a whole number that follows an odd one from half way on. -/
theorem le_roundDiv_iff {num den k : Nat} (hden : 0 < den) (hk : k % 2 = 1) :
    k + 1 ≤ roundDiv num den ↔ (2 * k + 1) * den ≤ 2 * num := by
  have hnum : den * (num / den) + num % den = num := Nat.div_add_mod num den
  have hrest : num % den < den := Nat.mod_lt num hden
  have hsplit : (2 * k + 1) * den = 2 * (den * k) + den := by
    rw [Nat.add_mul, Nat.one_mul, Nat.mul_assoc, Nat.mul_comm k]
  rcases Nat.lt_trichotomy (num / den) k with hlt | heq | hgt
  · have hstep : den * (num / den + 1) ≤ den * k := Nat.mul_le_mul_left den hlt
    have hround := roundDiv_le num den
    rw [Nat.mul_add] at hstep
    constructor
    · intro h
      omega
    · intro h
      omega
  · have hround : k + 1 ≤ roundDiv num den ↔ den ≤ 2 * (num % den) := by
      have hodd : k % 2 ≠ 0 := by omega
      simp only [roundDiv, heq, hodd, if_false]
      split_ifs <;> omega
    rw [heq] at hnum
    rw [hround, hsplit]
    constructor
    · intro h
      omega
    · intro h
      omega
  · have hstep : den * (k + 1) ≤ den * (num / den) := Nat.mul_le_mul_left den hgt
    have hround := le_roundDiv num den
    rw [Nat.mul_add] at hstep
    constructor
    · intro h
      omega
    · intro h
      omega

theorem twoPow_add (m n : Nat) : Nat.pow 2 (m + n) = Nat.pow 2 m * Nat.pow 2 n :=
  Nat.pow_add 2 m n

/-- Scaled by its leading bit, a whole number is no less than 2^52. -/
theorem le_scaled {n : Nat} (hn : n ≠ 0) :
    (scaled n 1 (Nat.log2 n - 52)).2 * Nat.pow 2 52 ≤ (scaled n 1 (Nat.log2 n - 52)).1 := by
  have hself : Nat.pow 2 (Nat.log2 n) ≤ n := Nat.log2_self_le hn
  unfold scaled
  by_cases hsmall : Nat.log2 n < 52
  · have hexp : (-((Nat.log2 n : Int) - 52)).toNat = 52 - Nat.log2 n := by omega
    have hpow : Nat.pow 2 (Nat.log2 n) * Nat.pow 2 (52 - Nat.log2 n) = Nat.pow 2 52 := by
      rw [← twoPow_add]
      congr 1
      omega
    rw [if_pos (by omega), hexp, Nat.one_mul, ← hpow]
    exact Nat.mul_le_mul_right _ hself
  · have hexp : ((Nat.log2 n : Int) - 52).toNat = Nat.log2 n - 52 := by omega
    have hpow : Nat.pow 2 (Nat.log2 n - 52) * Nat.pow 2 52 = Nat.pow 2 (Nat.log2 n) := by
      rw [← twoPow_add]
      congr 1
      omega
    rw [if_neg (by omega), hexp, Nat.one_mul, hpow]
    exact hself

/-- A whole number is taken at the exponent that its leading bit calls for. -/
theorem exponentFor_one {n : Nat} (hn : n ≠ 0) : exponentFor n 1 = (Nat.log2 n : Int) - 52 := by
  have hone : ((Nat.log2 1 : Nat) : Int) = 0 := by decide
  have hle := le_scaled hn
  simp only [exponentFor, hone, Int.sub_zero]
  rw [if_neg (by omega)]
  omega

/-- A ratio has a value next to it when its exponent, raised by one where rounding fills the mantissa, is not too
great. -/
theorem isFinite_ofRatio_iff {negative : Bool} {num den : Nat} (hnum : num ≠ 0) :
    (ofRatio negative num den).isFinite = true ↔
      (if roundDiv (scaled num den (exponentFor num den)).1 (scaled num den (exponentFor num den)).2 = Nat.pow 2 53
        then exponentFor num den + 1 else exponentFor num den) ≤ 971 := by
  unfold ofRatio
  rw [if_neg hnum]
  -- the cases are split one by one: simplifying all at once would compare 2^53 with a variable bit by bit
  extract_lets e
  split
  rename_i n d hscaled
  rw [show exponentFor num den = e from rfl, hscaled]
  extract_lets q
  split
  rename_i m e' hvalue
  rw [show roundDiv (n, d).1 (n, d).2 = q from rfl]
  clear_value q
  by_cases hq : q = Nat.pow 2 53
  · rw [if_pos hq] at hvalue ⊢
    obtain ⟨-, rfl⟩ := Prod.mk.inj hvalue
    split_ifs with hgreat
    · simpa [isFinite] using hgreat
    · simpa [isFinite] using hgreat
  · rw [if_neg hq] at hvalue ⊢
    obtain ⟨-, rfl⟩ := Prod.mk.inj hvalue
    split_ifs with hgreat
    · simpa [isFinite] using hgreat
    · simpa [isFinite] using hgreat

/-- The least whole number without a floating-point value next to it. -/
def overflow : Nat :=
  Nat.pow 2 1024 - Nat.pow 2 970

/-- **A whole number has a floating-point value next to it unless that would be 2^1024.** -/
theorem ofInt?_isSome_iff (n : Nat) : (ofInt? n).isSome = true ↔ n < overflow := by
  have hfinite : (ofInt? n).isSome = (ofRatio false n 1).isFinite := by
    unfold ofInt?
    rw [decide_eq_false (by omega), Int.natAbs_natCast]
    cases ofRatio false n 1 <;> rfl
  -- powers of two in terms of the one that is half a step
  obtain ⟨e, he⟩ : ∃ e, e = 970 := ⟨970, rfl⟩
  obtain ⟨half, hhalf⟩ : ∃ half, half = Nat.pow 2 e := ⟨_, rfl⟩
  have hfull : Nat.pow 2 53 = 9007199254740992 := rfl
  have hstep : Nat.pow 2 (e + 1) = 2 * half := by rw [hhalf, Nat.add_comm, twoPow_add]
  have hmost : Nat.pow 2 (e + 53) = 9007199254740992 * half := by rw [hhalf, Nat.add_comm, twoPow_add]
  have htop : Nat.pow 2 (e + 54) = 18014398509481984 * half := by rw [hhalf, Nat.add_comm, twoPow_add]
  have hoverflow : overflow = 18014398509481984 * half - half := by
    rw [overflow, show 1024 = e + 54 by omega, htop, ← he, hhalf]
  have hpos : 0 < half := hhalf ▸ Nat.two_pow_pos e
  rw [hfinite, hoverflow]
  by_cases hn : n = 0
  · rw [hn, ofRatio, if_pos rfl]
    simp only [isFinite, true_iff]
    omega
  · rw [isFinite_ofRatio_iff hn, exponentFor_one hn, hfull]
    have hself : Nat.pow 2 (Nat.log2 n) ≤ n := Nat.log2_self_le hn
    have hlt : n < Nat.pow 2 (Nat.log2 n + 1) := Nat.lt_log2_self
    rcases Nat.lt_trichotomy (Nat.log2 n) (e + 53) with hsmall | hlog | hgreat
    · have hle : Nat.pow 2 (Nat.log2 n + 1) ≤ Nat.pow 2 (e + 53) := Nat.pow_le_pow_right (by omega) hsmall
      rw [hmost] at hle
      constructor
      · intro _
        omega
      · intro _
        split_ifs <;> omega
    · have hscaled : scaled n 1 (((e + 53 : Nat) : Int) - 52) = (n, Nat.pow 2 (e + 1)) := by
        rw [scaled, if_neg (by omega), show (((e + 53 : Nat) : Int) - 52).toNat = e + 1 by omega, Nat.one_mul]
      rw [hlog] at hlt ⊢
      rw [htop] at hlt
      rw [hscaled, hstep]
      have hround := @le_roundDiv_iff n (2 * half) 9007199254740991 (by omega) (by decide)
      have hless : n / (2 * half) < 9007199254740992 := Nat.div_lt_of_lt_mul (by omega)
      have hle := roundDiv_le n (2 * half)
      have hproduct : (2 * 9007199254740991 + 1) * (2 * half) = 2 * (18014398509481984 * half - half) := by omega
      generalize roundDiv n (2 * half) = q at hround hle ⊢
      constructor
      · intro h
        split_ifs at h <;> omega
      · intro h
        split_ifs <;> omega
    · have hle : Nat.pow 2 (e + 54) ≤ Nat.pow 2 (Nat.log2 n) := Nat.pow_le_pow_right (by omega) hgreat
      rw [htop] at hle
      constructor
      · intro h
        split_ifs at h <;> omega
      · intro h
        omega

end MetaSearch.Binary64
