import MetaSearch.Proofs.Number.Greatest

/-!
# Rounding to a full mantissa

Rounding goes to the nearest whole number (`roundDiv_eq`), so that a quotient which is a mantissa of 53 bits already is
kept as it is (`ofRatio_of_full`).  Multiplying or dividing by a power of two then only moves the exponent, and a whole
number below 2^53 is its own floating-point value.
-/

namespace MetaSearch.Binary64

/-- A rounded quotient is at most half away from the exact one. -/
theorem roundDiv_near (num : Nat) {den : Nat} (hden : 0 < den) :
    2 * num ≤ 2 * (den * roundDiv num den) + den ∧ 2 * (den * roundDiv num den) ≤ 2 * num + den := by
  have hnum : den * (num / den) + num % den = num := Nat.div_add_mod num den
  have hrest : num % den < den := Nat.mod_lt num hden
  have hnext : den * (num / den + 1) = den * (num / den) + den := Nat.mul_succ den (num / den)
  simp only [roundDiv]
  split_ifs <;> omega

/-- A whole number that is less than half away from a quotient is what the quotient is rounded to. -/
theorem roundDiv_eq {num den k : Nat} (hlow : 2 * num < 2 * (den * k) + den) (hhigh : 2 * (den * k) < 2 * num + den) :
    roundDiv num den = k := by
  have hden : 0 < den := by omega
  have hnear := roundDiv_near num hden
  rcases Nat.lt_trichotomy (roundDiv num den) k with hlt | heq | hgt
  · have hstep : den * (roundDiv num den + 1) ≤ den * k := Nat.mul_le_mul_left den hlt
    rw [Nat.mul_succ] at hstep
    omega
  · exact heq
  · have hstep : den * (k + 1) ≤ den * roundDiv num den := Nat.mul_le_mul_left den hgt
    rw [Nat.mul_succ] at hstep
    omega

/-- A common factor does not change what a quotient is rounded to. -/
theorem roundDiv_mul_mul {c : Nat} (hc : 0 < c) (num den : Nat) :
    roundDiv (c * num) (c * den) = roundDiv num den := by
  have hrest : 2 * (c * (num % den)) = c * (2 * (num % den)) := Nat.mul_left_comm 2 c _
  simp only [roundDiv, Nat.mul_div_mul_left num den hc, Nat.mul_mod_mul_left c num den, hrest,
    Nat.mul_lt_mul_left hc]

/-! ## Full mantissas -/

/-- A mantissa that has all of its 53 bits. -/
def IsFull (m : Nat) : Prop :=
  Nat.pow 2 52 ≤ m ∧ m < Nat.pow 2 53

/-- A whole number below 2^53 is filled up by as many bits as it lacks. -/
theorem isFull_shifted {n : Nat} (hn : n ≠ 0) (hmost : n < Nat.pow 2 53) :
    Nat.log2 n ≤ 52 ∧ IsFull (n * Nat.pow 2 (52 - Nat.log2 n)) := by
  have hfew : Nat.log2 n < 53 := (Nat.log2_lt hn).mpr hmost
  have hself : Nat.pow 2 (Nat.log2 n) ≤ n := Nat.log2_self_le hn
  have hnext : n < Nat.pow 2 (Nat.log2 n + 1) := Nat.lt_log2_self
  have hlow : Nat.pow 2 52 = Nat.pow 2 (Nat.log2 n) * Nat.pow 2 (52 - Nat.log2 n) := by
    rw [← twoPow_add]
    congr 1
    omega
  have hhigh : Nat.pow 2 53 = Nat.pow 2 (Nat.log2 n + 1) * Nat.pow 2 (52 - Nat.log2 n) := by
    rw [← twoPow_add]
    congr 1
    omega
  refine ⟨by omega, ?_, ?_⟩
  · rw [hlow]
    exact Nat.mul_le_mul_right _ hself
  · rw [hhigh]
    exact Nat.mul_lt_mul_of_pos_right hnext (Nat.two_pow_pos _)

/-- At an exponent that is not above zero, the numerator is filled up. -/
theorem scaled_neg (num den j : Nat) : scaled num den (-(j : Int)) = (num * Nat.pow 2 j, den) := by
  unfold scaled
  cases j with
  | zero => rw [if_neg (by omega)]; simp
  | succ j => rw [if_pos (by omega), Int.neg_neg, Int.toNat_natCast]

/-- At the exponent above, one bit is missing. -/
theorem scaled_succ_lt {num den j : Nat} (h : num * Nat.pow 2 j < den * Nat.pow 2 53) :
    (scaled num den (-(j : Int) + 1)).1 < (scaled num den (-(j : Int) + 1)).2 * Nat.pow 2 52 := by
  have hhalf : Nat.pow 2 53 = Nat.pow 2 52 * 2 := rfl
  rw [hhalf] at h
  generalize Nat.pow 2 52 = full at h ⊢
  cases j with
  | zero =>
      have hden : den * 2 * full = den * (full * 2) := by rw [Nat.mul_assoc, Nat.mul_comm 2]
      have hnum : num * Nat.pow 2 0 = num := Nat.mul_one num
      unfold scaled
      rw [if_neg (by omega)]
      change num < den * 2 * full
      omega
  | succ j =>
      have hexp : -((j + 1 : Nat) : Int) + 1 = -(j : Int) := by omega
      rw [twoPow_add, ← Nat.mul_assoc, ← Nat.mul_assoc] at h
      rw [hexp, scaled_neg]
      exact Nat.lt_of_mul_lt_mul_right h

/-- The exponent of a ratio is the one at which it has a full mantissa. -/
theorem exponentFor_eq {num den j : Nat} (hnum : num ≠ 0) (hden : den ≠ 0) (hj : j ≤ 1074)
    (hlow : den * Nat.pow 2 52 ≤ num * Nat.pow 2 j) (hhigh : num * Nat.pow 2 j < den * Nat.pow 2 53) :
    exponentFor num den = -(j : Int) := by
  have hnumSelf : Nat.pow 2 (Nat.log2 num) ≤ num := Nat.log2_self_le hnum
  have hnumNext : num < Nat.pow 2 (Nat.log2 num + 1) := Nat.lt_log2_self
  have hdenSelf : Nat.pow 2 (Nat.log2 den) ≤ den := Nat.log2_self_le hden
  have hdenNext : den < Nat.pow 2 (Nat.log2 den + 1) := Nat.lt_log2_self
  -- the leading bits of numerator and denominator leave two exponents, and the ratio decides between them
  have hleast : Nat.log2 den + 52 < Nat.log2 num + 1 + j := by
    refine (Nat.pow_lt_pow_iff_right (by omega : 1 < 2)).mp ?_
    calc Nat.pow 2 (Nat.log2 den + 52) = Nat.pow 2 (Nat.log2 den) * Nat.pow 2 52 := twoPow_add _ _
      _ ≤ den * Nat.pow 2 52 := Nat.mul_le_mul_right _ hdenSelf
      _ ≤ num * Nat.pow 2 j := hlow
      _ < Nat.pow 2 (Nat.log2 num + 1) * Nat.pow 2 j := Nat.mul_lt_mul_of_pos_right hnumNext (Nat.two_pow_pos j)
      _ = Nat.pow 2 (Nat.log2 num + 1 + j) := (twoPow_add _ _).symm
  have hmost : Nat.log2 num + j < Nat.log2 den + 1 + 53 := by
    refine (Nat.pow_lt_pow_iff_right (by omega : 1 < 2)).mp ?_
    calc Nat.pow 2 (Nat.log2 num + j) = Nat.pow 2 (Nat.log2 num) * Nat.pow 2 j := twoPow_add _ _
      _ ≤ num * Nat.pow 2 j := Nat.mul_le_mul_right _ hnumSelf
      _ < den * Nat.pow 2 53 := hhigh
      _ ≤ Nat.pow 2 (Nat.log2 den + 1) * Nat.pow 2 53 := Nat.mul_le_mul_right _ (Nat.le_of_lt hdenNext)
      _ = Nat.pow 2 (Nat.log2 den + 1 + 53) := (twoPow_add _ _).symm
  by_cases hexact : Nat.log2 num + j = Nat.log2 den + 52
  · have hexp : (Nat.log2 num : Int) - Nat.log2 den - 52 = -(j : Int) := by omega
    simp only [exponentFor, hexp, scaled_neg]
    rw [if_neg (Nat.not_lt.mpr hlow)]
    omega
  · have hexp : (Nat.log2 num : Int) - Nat.log2 den - 52 = -(j : Int) + 1 := by omega
    simp only [exponentFor, hexp]
    rw [if_pos (scaled_succ_lt hhigh)]
    omega

/-- A ratio whose mantissa is not rounded up to 2^53 keeps its exponent. -/
theorem ofRatio_eq {num den j : Nat} (hnum : num ≠ 0) (hden : den ≠ 0) (hj : j ≤ 1074)
    (hlow : den * Nat.pow 2 52 ≤ num * Nat.pow 2 j) (hhigh : num * Nat.pow 2 j < den * Nat.pow 2 53)
    (hround : roundDiv (num * Nat.pow 2 j) den < Nat.pow 2 53) (negative : Bool) :
    ofRatio negative num den = finite negative (roundDiv (num * Nat.pow 2 j) den) (-(j : Int)) := by
  unfold ofRatio
  rw [if_neg hnum, exponentFor_eq hnum hden hj hlow hhigh]
  extract_lets e
  rw [show scaled num den e = (num * Nat.pow 2 j, den) from scaled_neg num den j]
  split
  rename_i n d hparts
  obtain ⟨rfl, rfl⟩ := Prod.mk.inj hparts
  extract_lets q
  have hless : q ≠ Nat.pow 2 53 := Nat.ne_of_lt hround
  have hsmall : ¬ 971 < e := by omega
  -- the quotient is left as a name: 2^53 would be compared with it bit by bit
  change _ = finite negative q e
  clear_value q e
  rw [if_neg hless]
  exact if_neg hsmall

/-- A ratio that is a full mantissa and an exponent is exactly that value. -/
theorem ofRatio_of_full {num den m j : Nat} (hm : IsFull m) (hden : 0 < den) (hj : j ≤ 1074)
    (h : num * Nat.pow 2 j = m * den) (negative : Bool) : ofRatio negative num den = finite negative m (-(j : Int)) := by
  have hround : roundDiv (num * Nat.pow 2 j) den = m := by rw [h, roundDiv_mul_self m hden]
  have hpos : 0 < m := Nat.lt_of_lt_of_le (Nat.two_pow_pos 52) hm.1
  have hnum : num ≠ 0 := by
    rintro rfl
    rw [Nat.zero_mul] at h
    exact Nat.ne_of_lt (Nat.mul_pos hpos hden) h
  rw [ofRatio_eq hnum (Nat.pos_iff_ne_zero.mp hden) hj (by rw [h, Nat.mul_comm]; exact Nat.mul_le_mul_right _ hm.1)
    (by rw [h, Nat.mul_comm]; exact Nat.mul_lt_mul_of_pos_left hm.2 hden) (hround.symm ▸ hm.2), hround]

/-- A value below one bit to the left of its point is the mantissa over a power of two. -/
theorem ratio_neg (m j : Nat) : ratio m (-(j : Int)) = (m, Nat.pow 2 j) := by
  unfold ratio
  cases j with
  | zero => rw [if_neg (by omega)]; simp
  | succ j => rw [if_pos (by omega), Int.neg_neg, Int.toNat_natCast]

/-- A whole number below 2^53 has a value of its own. -/
theorem ofInt?_eq {n : Nat} (hn : n ≠ 0) (hmost : n < Nat.pow 2 53) :
    ofInt? n = some (finite false (n * Nat.pow 2 (52 - Nat.log2 n)) (-((52 - Nat.log2 n : Nat) : Int))) := by
  have hvalue : ofRatio false n 1 = _ :=
    ofRatio_of_full (isFull_shifted hn hmost).2 (by omega) (by omega) (Nat.mul_one _).symm false
  unfold ofInt?
  rw [decide_eq_false (by omega), Int.natAbs_natCast, hvalue]

/-- A whole number written in digits is read as it is. -/
theorem exists_ofDecimal_eq {n : Nat} (hmost : n < Nat.pow 2 53) :
    ∃ j : Nat, ofDecimal false n 0 = finite false (n * Nat.pow 2 j) (-(j : Int)) := by
  by_cases hn : n = 0
  · obtain ⟨j, hj⟩ : ∃ j : Nat, (-1074 : Int) = -(j : Int) := ⟨1074, rfl⟩
    exact ⟨j, by rw [hn, Nat.zero_mul, ← hj]; rfl⟩
  · have hlength : (Nat.toDigits 10 n).length ≤ 16 := by
      rw [Nat.length_toDigits_le_iff (by decide) (by decide)]
      exact Nat.lt_trans hmost (by decide)
    have hvalue := ofRatio_of_full (isFull_shifted hn hmost).2 (by decide) (by omega) (Nat.mul_one _).symm false
    refine ⟨52 - Nat.log2 n, ?_⟩
    unfold ofDecimal
    dsimp only
    rw [if_neg hn, if_neg (by omega), if_neg (by omega), if_neg (by omega), ← hvalue, Int.toNat_zero]
    simp

/-- Division by a power of two lowers the exponent. -/
theorem divNat_twoPow {m j i : Nat} (hm : IsFull m) (hj : j + i ≤ 1074) (negative : Bool) :
    (finite negative m (-(j : Int))).divNat (Nat.pow 2 i) = finite negative m (-((j + i : Nat) : Int)) := by
  simp only [divNat, ratio_neg]
  exact ofRatio_of_full hm (Nat.mul_pos (Nat.two_pow_pos j) (Nat.two_pow_pos i)) hj (by rw [twoPow_add]; rfl) negative

/-- Multiplication by a power of two raises the exponent. -/
theorem mulNat_twoPow {m j i : Nat} (hm : IsFull m) (hj : j + i ≤ 1074) (negative : Bool) :
    (finite negative m (-((j + i : Nat) : Int))).mulNat (Nat.pow 2 i) = finite negative m (-(j : Int)) := by
  have hexact : m * Nat.pow 2 i * Nat.pow 2 j = m * Nat.pow 2 (j + i) := by
    rw [twoPow_add, Nat.mul_assoc, Nat.mul_comm (Nat.pow 2 i)]
  simp only [mulNat, ratio_neg]
  exact ofRatio_of_full hm (Nat.two_pow_pos (j + i)) (by omega) hexact negative

/-- The whole part of a value that is not negative. -/
theorem truncate?_eq (m j : Nat) : (finite false m (-(j : Int))).truncate? = some ((m / Nat.pow 2 j : Nat) : Int) := by
  simp only [truncate?, ratio_neg]
  rfl

end MetaSearch.Binary64
