import MetaSearch.Proofs.Number.Spelled
import MetaSearch.Text.Basic
import Mathlib.Algebra.Group.Nat.Defs

/-!
# Numbers written in decimal digits

The decimal digits of a number spell it, with or without zeros in front (`ofDigits_toDigits`, `ofDigits_padded`), and the
number is read from them unless they are too many (`int?_toDigits`).
-/

namespace MetaSearch

namespace Numeral

/-- What digits spell is read off their codes. -/
theorem ofDigits_values {s : List Char} (h : ∀ c ∈ s, c.isDigit = true) :
    ofDigits (s.filterMap Text.decimalValue?) = Nat.ofDigitChars 10 s 0 := by
  have hfold : ∀ start, (s.filterMap Text.decimalValue?).foldl (fun n d => 10 * n + d) start =
      Nat.ofDigitChars 10 s start := by
    induction s with
    | nil => exact fun start => rfl
    | cons c s ih =>
        intro start
        rw [List.filterMap_cons_some (Text.decimalValue?_of_isDigit (h c List.mem_cons_self)), List.foldl_cons]
        exact ih (fun d hd => h d (List.mem_cons_of_mem c hd)) _
  exact hfold 0

/-- The decimal digits of a number are digits. -/
theorem isDigit_of_mem_toDigits {n : Nat} {c : Char} (h : c ∈ Nat.toDigits 10 n) : c.isDigit = true :=
  Nat.isDigit_of_mem_toDigits (by decide) (by decide) h

/-- A digit of ASCII is a decimal digit. -/
theorem isDecimal_of_isDigit {c : Char} (h : c.isDigit = true) : Text.isDecimal c = true := by
  rw [Text.isDecimal, Text.decimalValue?_of_isDigit h]
  rfl

/-- **The decimal digits of a number spell it.** -/
theorem ofDigits_toDigits (n : Nat) : ofDigits ((Nat.toDigits 10 n).filterMap Text.decimalValue?) = n := by
  rw [ofDigits_values fun c => isDigit_of_mem_toDigits, Nat.ofDigitChars_ten_toDigits]

/-- Digits are read up to what follows them, as long as that begins with no digit and holds no underscore. -/
theorem digitRun_append {s rest : List Char} (hs : ∀ c ∈ s, c.isDigit = true) (hmark : '_' ∉ rest)
    (hrest : ∀ c, rest.head? = some c → Text.isDecimal c = false) :
    digitRun (s ++ rest) = (s.filterMap Text.decimalValue?, rest) := by
  have hnone : '_' ∉ s ++ rest := by
    rw [List.mem_append]
    rintro (hmem | hmem)
    · exact absurd (hs _ hmem) (by decide)
    · exact hmark hmem
  have hdecimal : ∀ c ∈ s, Text.isDecimal c = true := fun c hc => isDecimal_of_isDigit (hs c hc)
  rw [digitRun_eq hnone, List.takeWhile_append_of_pos hdecimal, List.dropWhile_append_of_pos hdecimal]
  cases rest with
  | nil => simp
  | cons c rest =>
      have hc := hrest c rfl
      rw [List.takeWhile_cons_of_neg (by simp [hc]), List.dropWhile_cons_of_neg (by simp [hc]), List.append_nil]

/-- A number that begins with a digit has no sign. -/
theorem sign_of_isDigit {c : Char} (h : c.isDigit = true) (s : List Char) : sign (c :: s) = (false, c :: s) := by
  unfold sign
  split
  · rename_i heq
    obtain rfl := (List.cons.inj heq).1
    exact absurd h (by decide)
  · rename_i heq
    obtain rfl := (List.cons.inj heq).1
    exact absurd h (by decide)
  · rfl

/-- A number is read from its digits, unless there are too many of them. -/
theorem int?_toDigits (n : Nat) :
    int? (String.ofList (Nat.toDigits 10 n)) = if n < 10 ^ maxDigits then some (n : Int) else none := by
  have hdecimal : ∀ c ∈ Nat.toDigits 10 n, Text.isDecimal c = true := fun c hc =>
    isDecimal_of_isDigit (isDigit_of_mem_toDigits hc)
  have hpos : 0 < (Nat.toDigits 10 n).length := Nat.length_toDigits_pos
  have htext : Text.isDigitText (String.ofList (Nat.toDigits 10 n)) = true := by
    have hne : Nat.toDigits 10 n ≠ [] := List.ne_nil_of_length_pos hpos
    have hsigns : ∀ c ∈ Nat.toDigits 10 n, Text.isDigitSign c = true := fun c hc => by
      rw [Text.isDigitSign, hdecimal c hc, Bool.true_or]
    simpa [Text.isDigitText, hne] using hsigns
  have hlength := length_filterMap_decimalValue? hdecimal
  have hvalue := ofDigits_toDigits n
  have hfew : (Nat.toDigits 10 n).length ≤ maxDigits ↔ n < 10 ^ maxDigits :=
    Nat.length_toDigits_le_iff (by decide) (by decide)
  rw [int?_of_isDigitText htext, String.toList_ofList, List.takeWhile_eq_self_iff.mpr hdecimal,
    List.dropWhile_eq_nil_iff.mpr hdecimal]
  cases hvalues : (Nat.toDigits 10 n).filterMap Text.decimalValue? with
  | nil =>
      rw [hvalues, List.length_nil] at hlength
      omega
  | cons d ds =>
      rw [hvalues] at hvalue hlength
      rw [List.length_cons] at hlength
      simp only [hvalue, ← hfew, ← hlength]
      by_cases hmany : maxDigits ≤ ds.length
      · rw [if_pos hmany, if_neg (by omega)]
      · rw [if_neg hmany, if_pos (by omega)]

end Numeral

namespace Text

/-- Digits are no blanks, and their capitals are they themselves. -/
theorem isBlank_and_upperExpansion_of_isDigit {c : Char} (h : c.isDigit = true) :
    isBlank c = false ∧ upperExpansion c = [c] := by
  have hrange : 48 ≤ c.toNat ∧ c.toNat < 58 := by
    simp only [Char.isDigit, Bool.and_eq_true, decide_eq_true_eq, ge_iff_le, UInt32.le_iff_toNat_le] at h
    exact ⟨h.1, Nat.lt_succ_of_le h.2⟩
  constructor
  · rw [← Bool.not_eq_true]
    simp only [isBlank, Bool.or_eq_true, Bool.and_eq_true, decide_eq_true_eq, beq_iff_eq]
    omega
  · have hsmall : ¬ ('a'.val ≤ c.val ∧ c.val ≤ 'z'.val) := by
      rw [UInt32.le_iff_toNat_le]
      exact fun hletter => absurd (Nat.le_trans hletter.1 (Nat.le_of_lt_succ hrange.2)) (by decide)
    have hcapital : c.toUpper = c := dif_neg hsmall
    rw [upperExpansion, if_pos (by omega), hcapital]

/-- A padded number consists of digits. -/
theorem isDigit_of_mem_padded {width n : Nat} {c : Char} (h : c ∈ (padded width n).toList) : c.isDigit = true := by
  rw [padded, String.toList_ofList, List.mem_append, List.mem_replicate] at h
  rcases h with ⟨-, rfl⟩ | h
  · decide
  · exact Numeral.isDigit_of_mem_toDigits h

/-- A number that fits has the width that it is padded to. -/
theorem length_padded_of_lt {width n : Nat} (hwidth : 0 < width) (h : n < 10 ^ width) :
    (padded width n).toList.length = width := by
  have hfits : (Nat.toDigits 10 n).length ≤ width := (Nat.length_toDigits_le_iff (by decide) hwidth).mpr h
  rw [padded, String.toList_ofList, List.length_append, List.length_replicate]
  omega

/-- A padded number keeps its value. -/
theorem ofDigits_padded (width n : Nat) : Numeral.ofDigits ((padded width n).toList.filterMap decimalValue?) = n := by
  have hzeros : ∀ k, Nat.ofDigitChars 10 (List.replicate k '0') 0 = 0 := by
    intro k
    induction k with
    | zero => rfl
    | succ k ih => exact ih
  rw [Numeral.ofDigits_values fun c => isDigit_of_mem_padded, padded, String.toList_ofList, Nat.ofDigitChars_append,
    hzeros, Nat.ofDigitChars_ten_toDigits]

end Text

end MetaSearch
