import MetaSearch.Number.Numeral
import Mathlib.Data.List.TakeWhile

/-!
# Texts of digits

A text may consist of signs for digits and spell no number all the same: superscripts and circled digits are such
signs, and no number is written with more than 4300 digits.  `int?_isSome_iff` says that there is no third reason.
-/

namespace MetaSearch

/-- The code points of blanks. -/
def Text.blankCodes : List Nat :=
  [0x9, 0xA, 0xB, 0xC, 0xD, 0x1C, 0x1D, 0x1E, 0x1F, 0x20, 0x85, 0xA0, 0x1680, 0x2000, 0x2001, 0x2002, 0x2003, 0x2004,
    0x2005, 0x2006, 0x2007, 0x2008, 0x2009, 0x200A, 0x2028, 0x2029, 0x202F, 0x205F, 0x3000]

theorem Text.toNat_mem_blankCodes {c : Char} (h : Text.isBlank c = true) : c.toNat ∈ Text.blankCodes := by
  have hrun : ∀ first many, (∀ n ∈ List.range' first many, n ∈ Text.blankCodes) → first ≤ c.toNat →
      c.toNat < first + many → c.toNat ∈ Text.blankCodes :=
    fun first many hall hlow hhigh => hall _ (List.mem_range'_1.mpr ⟨hlow, hhigh⟩)
  simp only [Text.isBlank, Bool.or_eq_true, Bool.and_eq_true, decide_eq_true_eq, beq_iff_eq] at h
  rcases h with (((((((((h | h) | h) | h) | h) | h) | h) | h) | h) | h) | h
  · exact hrun 0x9 5 (by decide) h.1 (Nat.lt_succ_of_le h.2)
  · exact hrun 0x1C 5 (by decide) h.1 (Nat.lt_succ_of_le h.2)
  case inl.inl.inl.inl.inl.inr => exact hrun 0x2000 11 (by decide) h.1 (Nat.lt_succ_of_le h.2)
  all_goals
    rw [h]
    decide

/-- No blank is a sign for a digit. -/
theorem Text.isDigitSign_of_isBlank {c : Char} (h : Text.isBlank c = true) : Text.isDigitSign c = false := by
  have hcodes : ∀ n ∈ Text.blankCodes, Text.isDigitSign (Char.ofNat n) = false := by decide +kernel
  have hc := hcodes c.toNat (Text.toNat_mem_blankCodes h)
  rwa [Char.ofNat_toNat] at hc

/-- Nothing is taken off a text that holds no character of a class. -/
theorem Text.trimWhile_of_forall {p : Char → Bool} {s : List Char} (h : ∀ c ∈ s, p c = false) :
    Text.trimWhile p s = s := by
  have hdrop : ∀ t : List Char, (∀ c ∈ t, p c = false) → t.dropWhile p = t := by
    intro t ht
    cases t with
    | nil => rfl
    | cons c t => simp [ht c List.mem_cons_self]
  rw [Text.trimWhile, hdrop s h, Text.dropEndWhile, hdrop s.reverse (by simpa using h), List.reverse_reverse]

namespace Numeral

/-- Without underscores, the digits at the front of a text are its decimal digits. -/
theorem digitRun_eq {s : List Char} (h : '_' ∉ s) :
    digitRun s = ((s.takeWhile Text.isDecimal).filterMap Text.decimalValue?, s.dropWhile Text.isDecimal) := by
  induction s with
  | nil => simp [digitRun]
  | cons c s ih =>
      obtain ⟨hc, hs⟩ : '_' ≠ c ∧ '_' ∉ s := by simpa using h
      have hafter : afterUnderscore s = s := by
        unfold afterUnderscore
        split
        · simp at hs
        · rfl
      rw [digitRun]
      cases hvalue : Text.decimalValue? c with
      | none => simp [Text.isDecimal, hvalue]
      | some d => simp [Text.isDecimal, hvalue, hafter, ih hs]

/-- Every decimal digit has a value. -/
theorem length_filterMap_decimalValue? {s : List Char} (h : ∀ c ∈ s, Text.isDecimal c = true) :
    (s.filterMap Text.decimalValue?).length = s.length := by
  induction s with
  | nil => rfl
  | cons c s ih =>
      obtain ⟨d, hd⟩ := Option.isSome_iff_exists.mp (h c List.mem_cons_self)
      simp [hd, ih fun e he => h e (List.mem_cons_of_mem c he)]

/-- A text of signs for digits is read from its first sign on. -/
theorem int?_of_isDigitText {s : String} (hs : Text.isDigitText s = true) :
    int? s =
      match ((s.toList.takeWhile Text.isDecimal).filterMap Text.decimalValue?, s.toList.dropWhile Text.isDecimal) with
      | (d :: ds, []) => if maxDigits ≤ ds.length then none else some (ofDigits (d :: ds) : Int)
      | _ => none := by
  obtain ⟨hne, hsigns⟩ : s.toList ≠ [] ∧ ∀ c ∈ s.toList, Text.isDigitSign c = true := by
    simpa [Text.isDigitText] using hs
  have hother : ∀ c, Text.isDigitSign c = false → c ∉ s.toList := by
    intro c hc hmem
    simp [hsigns c hmem] at hc
  have htrim : Text.trimWhile Text.isBlank s.toList = s.toList := by
    refine Text.trimWhile_of_forall fun c hc => ?_
    cases hblank : Text.isBlank c with
    | false => rfl
    | true => exact absurd hc (hother c (Text.isDigitSign_of_isBlank hblank))
  have hsign : sign s.toList = (false, s.toList) := by
    have hminus := hother '-' (by decide +kernel)
    have hplus := hother '+' (by decide +kernel)
    unfold sign
    split
    · rename_i rest heq
      simp [heq] at hminus
    · rename_i rest heq
      simp [heq] at hplus
    · rfl
  simp only [int?, htrim, hsign, digitRun_eq (hother '_' (by decide +kernel))]
  rfl

/-- **Of a text of signs for digits, those spell a number that hold nothing but decimal digits, and not too many.** -/
theorem int?_isSome_iff {s : String} (hs : Text.isDigitText s = true) :
    (int? s).isSome ↔ (∀ c ∈ s.toList, Text.isDecimal c = true) ∧ s.length ≤ maxDigits := by
  have hne : s.toList ≠ [] := by
    have hboth : s.toList ≠ [] ∧ ∀ c ∈ s.toList, Text.isDigitSign c = true := by simpa [Text.isDigitText] using hs
    exact hboth.1
  rw [int?_of_isDigitText hs, ← String.length_toList]
  by_cases hdecimal : ∀ c ∈ s.toList, Text.isDecimal c = true
  · have hlength := length_filterMap_decimalValue? hdecimal
    rw [List.takeWhile_eq_self_iff.mpr hdecimal, List.dropWhile_eq_nil_iff.mpr hdecimal]
    cases hvalues : s.toList.filterMap Text.decimalValue? with
    | nil =>
        rw [hvalues, List.length_nil] at hlength
        exact absurd (List.length_eq_zero_iff.mp hlength.symm) hne
    | cons d ds =>
        rw [hvalues, List.length_cons] at hlength
        rw [← hlength]
        by_cases hmany : maxDigits ≤ ds.length
        · have hlong : ¬ ds.length + 1 ≤ maxDigits := by omega
          simp [hmany, hlong]
        · simp only [if_neg hmany]
          exact ⟨fun _ => ⟨hdecimal, by omega⟩, fun _ => rfl⟩
  · have hrest : s.toList.dropWhile Text.isDecimal ≠ [] := mt List.dropWhile_eq_nil_iff.mp hdecimal
    constructor
    · intro hsome
      split at hsome
      · rename_i d ds heq
        exact absurd (Prod.mk.inj heq).2 hrest
      · simp at hsome
    · rintro ⟨hall, -⟩
      exact absurd hall hdecimal

end Numeral

end MetaSearch
