import Mathlib.Data.Nat.Log
import MetaSearch.Proofs.Number.Rounded
import MetaSearch.Proofs.Number.Written
import MetaSearch.Proofs.Text.Trimmed
import MetaSearch.Release.Size

/-!
# Sizes read again

A size is shown with two decimal places, in a unit that is chosen before it is rounded.  `text_eq` says what that comes
to for every size that floating point holds exactly, and `read_displayed` what number of bytes the text gives.  The two
steps together keep what is shown, except right below the next unit: there rounding reaches 1024 of the unit at hand, and
the text that says so is read as one of the next.
-/

namespace MetaSearch.Size

/-- The power of 1024 that a size is shown in. -/
def power (n : Nat) : Nat :=
  min (Nat.log 1024 n) 5

/-- The hundredths of its unit that a size is shown with. -/
def hundredths (n : Nat) : Nat :=
  Binary64.roundDiv (n * 100) (1024 ^ power n)

/-- A number of hundredths with a point before its last two digits. -/
def pointed (h : Nat) : List Char :=
  Nat.toDigits 10 (h / 100) ++ '.' :: (Text.padded 2 (h % 100)).toList

/-- A number of hundredths of a unit. -/
def amount (h power : Nat) : String :=
  String.ofList (pointed h) ++ " " ++ units.getD power ""

/-- What a size is shown as. -/
def displayed (n : Nat) : String :=
  if n = 0 then "0 B" else amount (hundredths n) (power n)

/-! ## Writing -/

/-- Two places hold the tens and the units. -/
theorem toList_padded_two {r : Nat} (hr : r < 100) :
    (Text.padded 2 r).toList = Nat.toDigits 10 (r / 10) ++ Nat.toDigits 10 (r % 10) := by
  have hone : ∀ d < 10, (Nat.toDigits 10 d).length = 1 := by
    intro d hd
    rw [Nat.toDigits_of_lt_base hd, List.length_singleton]
  have hfits : r % 10 < 10 := Nat.mod_lt r (by omega)
  rw [Text.padded, String.toList_ofList]
  by_cases hless : r < 10
  · rw [hone r hless, Nat.div_eq_of_lt hless, Nat.mod_eq_of_lt hless, Nat.toDigits_zero]
    rfl
  · have hsplit : Nat.toDigits 10 r = Nat.toDigits 10 (r / 10) ++ Nat.toDigits 10 (r % 10) := by
      rw [Nat.toDigits_append_toDigits (by omega) (by omega) hfits, Nat.div_add_mod]
    rw [hsplit, List.length_append, hone _ (by omega), hone _ hfits]
    rfl

/-- The last two digits of a number are those of its hundredths. -/
theorem toDigits_hundreds {h : Nat} (hmany : 100 ≤ h) :
    Nat.toDigits 10 h = Nat.toDigits 10 (h / 100) ++ (Text.padded 2 (h % 100)).toList := by
  have hunits : 10 * (h / 10) + h % 10 = h := Nat.div_add_mod h 10
  have htens : 10 * (h / 100) + h % 100 / 10 = h / 10 := by omega
  have hlast : h % 100 % 10 = h % 10 := by omega
  have hrest : Nat.toDigits 10 (h / 10) = Nat.toDigits 10 (h / 100) ++ Nat.toDigits 10 (h % 100 / 10) := by
    rw [Nat.toDigits_append_toDigits (by omega) (by omega) (by omega), htens]
  calc Nat.toDigits 10 h = Nat.toDigits 10 (h / 10) ++ Nat.toDigits 10 (h % 10) := by
        rw [Nat.toDigits_append_toDigits (by omega) (by omega) (by omega), hunits]
    _ = Nat.toDigits 10 (h / 100) ++ (Text.padded 2 (h % 100)).toList := by
        rw [hrest, toList_padded_two (by omega), hlast, List.append_assoc]

/-- A value is written with its hundredths. -/
theorem fixed_two {m j h : Nat} (hvalue : Binary64.roundDiv (m * 100) (Nat.pow 2 j) = h) (hmany : 100 ≤ h) :
    (Binary64.finite false m (-(j : Int))).fixed 2 = String.ofList (pointed h) := by
  have hplaces : (Text.padded 2 (h % 100)).toList.length = 2 :=
    Text.length_padded_of_lt (by omega) (Nat.mod_lt h (by omega))
  have hpos : 0 < (Nat.toDigits 10 (h / 100)).length := Nat.length_toDigits_pos
  have hnone : 2 + 1 - ((Nat.toDigits 10 (h / 100)).length + 2) = 0 := by omega
  have hscaled : m * Nat.pow 10 2 = m * 100 := rfl
  simp only [Binary64.fixed, Binary64.fixedDigits, Binary64.ratio_neg, hscaled, hvalue, toDigits_hundreds hmany,
    List.length_append, hplaces, hnone, List.replicate_zero, List.nil_append, Nat.add_sub_cancel, List.take_left,
    List.drop_left, pointed]
  rfl

/-- The units are powers of two. -/
theorem unit_eq_twoPow (k : Nat) : 1024 ^ k = Nat.pow 2 (10 * k) :=
  (Nat.pow_mul 2 10 k).symm

/-- A size that has been divided by 1024 some times: the mantissa stays, and the exponent falls by ten each time. -/
def quotient (n i : Nat) : Binary64 :=
  .finite false (n * Nat.pow 2 (52 - Nat.log2 n)) (-((52 - Nat.log2 n + 10 * i : Nat) : Int))

variable {n : Nat}

/-- A size is in its unit when the next power of 1024 is above it. -/
theorem quotient_lt (n i : Nat) : (quotient n i).lt ((Binary64.ofInt? 1024).getD .nan) = decide (n < 1024 ^ (i + 1)) := by
  have hunit : (Binary64.ofInt? 1024).getD .nan = .finite false (Nat.pow 2 52) (-((42 : Nat) : Int)) := rfl
  have hsplit : Nat.pow 2 (52 - Nat.log2 n + 10 * i) * Nat.pow 2 52 =
      Nat.pow 2 (10 * (i + 1)) * (Nat.pow 2 (52 - Nat.log2 n) * Nat.pow 2 42) := by
    simp only [← Binary64.twoPow_add]
    congr 1
    omega
  rw [hunit, unit_eq_twoPow]
  simp only [Binary64.lt, quotient, Binary64.signedRatio?, Binary64.ratio_neg, Bool.false_eq_true, if_false]
  refine decide_eq_decide.mpr ?_
  rw [← Int.natCast_mul, ← Int.natCast_mul, Int.ofNat_lt, Nat.mul_comm (Nat.pow 2 52), hsplit, Nat.mul_assoc]
  exact Nat.mul_lt_mul_right (Nat.mul_pos (Nat.two_pow_pos _) (Nat.two_pow_pos _))

/-- One more division. -/
theorem divNat_quotient (hn : n ≠ 0) (hmost : n < 2 ^ 53) {i : Nat} (hi : i < 100) :
    (quotient n i).divNat 1024 = quotient n (i + 1) := by
  have hexp : 52 - Nat.log2 n + 10 * i + 10 = 52 - Nat.log2 n + 10 * (i + 1) := by omega
  rw [quotient, show 1024 = Nat.pow 2 10 from rfl,
    Binary64.divNat_twoPow (Binary64.isFull_shifted hn hmost).2 (by omega) false, hexp, quotient]

theorem inUnits_cons_cons (x : Binary64) (unit next : String) (rest : List String) :
    inUnits x (unit :: next :: rest) =
      if x.lt ((Binary64.ofInt? 1024).getD .nan) then (x, unit) else inUnits (x.divNat 1024) (next :: rest) := by
  rw [inUnits]
  simp

/-- A size is divided until the next power of 1024 is above it or the units run out. -/
theorem inUnits_quotient (hn : n ≠ 0) (hmost : n < 2 ^ 53) {us : List String} (hus : us ≠ []) {i : Nat}
    (hi : i + us.length ≤ 7) :
    inUnits (quotient n i) us =
      (quotient n (i + min (Nat.log 1024 n - i) (us.length - 1)),
        us.getD (min (Nat.log 1024 n - i) (us.length - 1)) "") := by
  induction us generalizing i with
  | nil => exact absurd rfl hus
  | cons unit rest ih =>
      cases rest with
      | nil => simp [inUnits]
      | cons next rest =>
          have hless : n < 1024 ^ (i + 1) ↔ Nat.log 1024 n < i + 1 := (Nat.log_lt_iff_lt_pow (by omega) hn).symm
          rw [inUnits_cons_cons, quotient_lt, List.length_cons, Nat.add_sub_cancel]
          by_cases hunit : Nat.log 1024 n < i + 1
          · have hnone : Nat.log 1024 n - i = 0 := by omega
            rw [if_pos (decide_eq_true (hless.mpr hunit)), hnone, Nat.zero_min]
            rfl
          · rw [List.length_cons, List.length_cons] at hi
            have hmore : min (Nat.log 1024 n - i) (next :: rest).length =
                min (Nat.log 1024 n - (i + 1)) ((next :: rest).length - 1) + 1 := by
              rw [List.length_cons]
              omega
            rw [if_neg (by simpa [hless] using hunit), divNat_quotient hn hmost (by omega),
              ih (by simp) (by rw [List.length_cons]; omega), hmore, List.getD_cons_succ]
            congr 2
            omega

/-- A size is at least one of its unit. -/
theorem pow_power_le (hn : n ≠ 0) : 1024 ^ power n ≤ n :=
  Nat.le_trans (Nat.pow_le_pow_right (by omega) (Nat.min_le_left _ _)) (Nat.pow_log_le_self 1024 hn)

/-- So it is shown with at least a hundred hundredths. -/
theorem hundred_le_hundredths (hn : n ≠ 0) : 100 ≤ hundredths n := by
  refine Nat.le_trans ?_ (Binary64.le_roundDiv _ _)
  rw [Nat.le_div_iff_mul_le (Nat.pow_pos (by omega)), Nat.mul_comm]
  exact Nat.mul_le_mul_right 100 (pow_power_le hn)

/-- A size is written with the value and the unit that the divisions end in. -/
theorem text_of_inUnits {x value : Binary64} {unit : String} (hn : n ≠ 0) (hx : Binary64.ofInt? n = some x)
    (h : inUnits x units = (value, unit)) : text n = .ok (value.fixed 2 ++ " " ++ unit) := by
  rw [text, if_neg (by omega), hx]
  simp only [h]

/-- The hundredths of a size are those of its value in the unit. -/
theorem roundDiv_quotient (n : Nat) :
    Binary64.roundDiv (n * Nat.pow 2 (52 - Nat.log2 n) * 100) (Nat.pow 2 (52 - Nat.log2 n + 10 * power n)) =
      hundredths n := by
  have hden : Nat.pow 2 (52 - Nat.log2 n + 10 * power n) = Nat.pow 2 (52 - Nat.log2 n) * 1024 ^ power n := by
    rw [Binary64.twoPow_add, unit_eq_twoPow]
  have hnum : n * Nat.pow 2 (52 - Nat.log2 n) * 100 = Nat.pow 2 (52 - Nat.log2 n) * (n * 100) := by
    rw [Nat.mul_comm n, Nat.mul_assoc]
  rw [hden, hnum, Binary64.roundDiv_mul_mul (c := Nat.pow 2 (52 - Nat.log2 n)) (Nat.two_pow_pos _), hundredths]

/-- **What a size is shown as**, as long as floating point holds it exactly. -/
theorem text_eq (hmost : n < 2 ^ 53) : text n = .ok (displayed n) := by
  by_cases hn : n = 0
  · subst hn
    rfl
  · have hstart : Binary64.ofInt? n = some (quotient n 0) := by
      rw [Binary64.ofInt?_eq hn hmost, quotient, Nat.mul_zero, Nat.add_zero]
    have hunit : inUnits (quotient n 0) units = (quotient n (power n), units.getD (power n) "") := by
      rw [inUnits_quotient hn hmost (by simp [units]) (by simp [units])]
      simp [power, units]
    have hvalue : (quotient n (power n)).fixed 2 = String.ofList (pointed (hundredths n)) := by
      rw [quotient, fixed_two (roundDiv_quotient n) (hundred_le_hundredths hn)]
    rw [text_of_inUnits hn hstart hunit, hvalue, displayed, if_neg hn, amount]

/-! ## Reading -/

theorem amount_toList (h k : Nat) : (amount h k).toList = pointed h ++ ' ' :: (units.getD k "").toList := by
  simp [amount, String.toList_append]

/-- A number with a point consists of digits and the point. -/
theorem isDigit_or_of_mem_pointed {h : Nat} {c : Char} (hc : c ∈ pointed h) : c.isDigit = true ∨ c = '.' := by
  rw [pointed, List.mem_append, List.mem_cons] at hc
  rcases hc with hc | rfl | hc
  · exact .inl (Numeral.isDigit_of_mem_toDigits hc)
  · exact .inr rfl
  · exact .inl (Text.isDigit_of_mem_padded hc)

/-- It begins with a digit. -/
theorem exists_pointed_eq_cons (h : Nat) : ∃ c s, pointed h = c :: s ∧ c.isDigit = true := by
  obtain ⟨c, s, hdigits⟩ := List.exists_cons_of_length_pos (Nat.length_toDigits_pos (b := 10) (n := h / 100))
  refine ⟨c, s ++ '.' :: (Text.padded 2 (h % 100)).toList, by rw [pointed, hdigits, List.cons_append], ?_⟩
  exact Numeral.isDigit_of_mem_toDigits (n := h / 100) (hdigits ▸ List.mem_cons_self)

variable {h k : Nat}

/-- The units are written in capitals, end in the same one, and are told from each other. -/
theorem unit_spec (hk : k ≤ 5) :
    (units.getD k "").toList.flatMap Text.upperExpansion = (units.getD k "").toList ∧
      (units.getD k "").toList.getLast? = some 'B' ∧
      unitAt? ((' ' :: (units.getD k "").toList).dropWhile Text.isBlank) = some k := by
  have hall : ∀ k < 6, (units.getD k "").toList.flatMap Text.upperExpansion = (units.getD k "").toList ∧
      (units.getD k "").toList.getLast? = some 'B' ∧
      unitAt? ((' ' :: (units.getD k "").toList).dropWhile Text.isBlank) = some k := by decide
  exact hall k (by omega)

/-- A shown amount has no blanks around it. -/
theorem strip_amount (h : Nat) (hk : k ≤ 5) : Text.strip (amount h k) = amount h k := by
  obtain ⟨c, s, hpointed, hdigit⟩ := exists_pointed_eq_cons h
  obtain ⟨-, hlast, -⟩ := unit_spec hk
  have hedge : Text.trimWhile Text.isBlank (amount h k).toList = (amount h k).toList := by
    refine Text.trimWhile_of_edges (fun d hd => ?_) fun d hd => ?_
    · rw [amount_toList, hpointed, List.cons_append, List.head?_cons] at hd
      obtain rfl := Option.some.inj hd
      exact (Text.isBlank_and_upperExpansion_of_isDigit hdigit).1
    · rw [amount_toList, List.getLast?_append, List.getLast?_cons, hlast] at hd
      obtain rfl : 'B' = d := by simpa using hd
      decide
  rw [Text.strip, hedge, String.ofList_toList]

/-- It is in capitals. -/
theorem upper_amount (h : Nat) (hk : k ≤ 5) : Text.upper (amount h k) = amount h k := by
  have hself : ∀ c ∈ pointed h, Text.upperExpansion c = [c] := by
    intro c hc
    rcases isDigit_or_of_mem_pointed hc with hdigit | rfl
    · exact (Text.isBlank_and_upperExpansion_of_isDigit hdigit).2
    · decide
  have hpointed : (pointed h).flatMap Text.upperExpansion = pointed h := by
    rw [List.flatMap_def, List.map_congr_left hself, ← List.flatMap_def]
    exact List.flatMap_singleton' _
  have hblank : Text.upperExpansion ' ' = [' '] := by decide
  rw [Text.upper, amount_toList, List.flatMap_append, hpointed, List.flatMap_cons, hblank, (unit_spec hk).1,
    List.singleton_append, ← amount_toList, String.ofList_toList]

/-- It is no row of digits. -/
theorem isDigitText_amount (h k : Nat) : Text.isDigitText (amount h k) = false := by
  have hblank : ' ' ∈ (amount h k).toList := by simp [amount_toList]
  have hall : (amount h k).toList.all Text.isDigitSign = false := by
    rw [List.all_eq_false]
    exact ⟨' ', hblank, Bool.eq_false_iff.mp (Text.isDigitSign_of_isBlank (by decide))⟩
  rw [Text.isDigitText, hall, Bool.and_false]

/-- The first amount in it is all of it. -/
theorem firstAmount?_amount (h : Nat) (hk : k ≤ 5) : firstAmount? (amount h k).toList = some (pointed h, k) := by
  obtain ⟨c, s, hpointed, hdigit⟩ := exists_pointed_eq_cons h
  have hparts : ∀ d ∈ s, isNumberPart d = true := by
    intro d hd
    have hmem : d ∈ pointed h := hpointed ▸ List.mem_cons_of_mem c hd
    rcases isDigit_or_of_mem_pointed hmem with hd | rfl
    · rw [isNumberPart, Numeral.isDecimal_of_isDigit hd, Bool.true_or, Bool.true_or]
    · decide
  have hmore : (s ++ ' ' :: (units.getD k "").toList).takeWhile isNumberPart = s := by
    rw [List.takeWhile_append_of_pos hparts, List.takeWhile_cons_of_neg (by decide), List.append_nil]
  rw [amount_toList, hpointed, List.cons_append, firstAmount?, amountAt?, if_pos (Numeral.isDecimal_of_isDigit hdigit)]
  simp only [hmore, List.drop_left, (unit_spec hk).2.2, Option.map_some, Option.orElse_some]

/-- Its digits are those of its hundredths, two of them behind the point. -/
theorem decimalRun_pointed (hmany : 100 ≤ h) : Numeral.decimalRun (pointed h) = some (h, -2, []) := by
  have hplaces : ∀ c ∈ (Text.padded 2 (h % 100)).toList, c.isDigit = true := fun c => Text.isDigit_of_mem_padded
  have hfront : Numeral.digitRun (pointed h) =
      ((Nat.toDigits 10 (h / 100)).filterMap Text.decimalValue?, '.' :: (Text.padded 2 (h % 100)).toList) := by
    refine Numeral.digitRun_append (fun c => Numeral.isDigit_of_mem_toDigits) (fun hmem => ?_) fun c hc => ?_
    · rcases List.mem_cons.mp hmem with heq | hmem
      · exact absurd heq (by decide)
      · exact absurd (hplaces _ hmem) (by decide)
    · obtain rfl := Option.some.inj hc
      decide
  have hback : Numeral.digitRun (Text.padded 2 (h % 100)).toList =
      ((Text.padded 2 (h % 100)).toList.filterMap Text.decimalValue?, []) := by
    have hrun := Numeral.digitRun_append hplaces (List.not_mem_nil (a := '_')) (by simp)
    rwa [List.append_nil] at hrun
  have hlength : ((Text.padded 2 (h % 100)).toList.filterMap Text.decimalValue?).length = 2 := by
    rw [Numeral.length_filterMap_decimalValue? fun c hc => Numeral.isDecimal_of_isDigit (hplaces c hc)]
    exact Text.length_padded_of_lt (by omega) (Nat.mod_lt h (by omega))
  have hdigits : Numeral.ofDigits ((Nat.toDigits 10 (h / 100)).filterMap Text.decimalValue? ++
      (Text.padded 2 (h % 100)).toList.filterMap Text.decimalValue?) = h := by
    rw [← List.filterMap_append, ← toDigits_hundreds hmany, Numeral.ofDigits_toDigits]
  have hsome : ((Text.padded 2 (h % 100)).toList.filterMap Text.decimalValue?).isEmpty = false := by
    rw [List.isEmpty_eq_false_iff, ← List.length_pos_iff, hlength]
    omega
  simp only [Numeral.decimalRun, hfront, hback, hsome, Bool.and_false, Bool.false_eq_true, if_false, hdigits, hlength,
    Numeral.exponentRun]
  rfl

/-- A number with a point is read as it is. -/
theorem value?_pointed (hmany : 100 ≤ h) : value? (pointed h) = some (Binary64.ofDecimal false h (-2)) := by
  obtain ⟨c, s, hpointed, hdigit⟩ := exists_pointed_eq_cons h
  have hpoint : (pointed h).contains '.' = true := by simp [pointed]
  have hcommas : (pointed h).filter (· != ',') = pointed h := by
    rw [List.filter_eq_self]
    rintro d hd
    have hne : d ≠ ',' := by
      rintro rfl
      exact (isDigit_or_of_mem_pointed hd).elim (by decide) (by decide)
    simpa using hne
  have htrim : Text.trimWhile Text.isBlank (pointed h) = pointed h := by
    refine Text.trimWhile_of_forall fun d hd => ?_
    rcases isDigit_or_of_mem_pointed hd with hd | rfl
    · exact (Text.isBlank_and_upperExpansion_of_isDigit hd).1
    · decide
  have hsign : Numeral.sign (pointed h) = (false, pointed h) := by
    rw [hpointed, Numeral.sign_of_isDigit hdigit]
  simp only [value?, Numeral.float?, hpoint, Bool.not_true, Bool.false_and, Bool.false_eq_true, if_false, hcommas,
    String.toList_ofList, htrim, hsign, decimalRun_pointed hmany]

/-- A number of hundredths is rounded as the quotient that it is. -/
theorem ofDecimal_hundredths (hmany : 100 ≤ h) (hmost : h ≤ 102400) :
    Binary64.ofDecimal false h (-2) = Binary64.ofRatio false h 100 := by
  have hfew : (Nat.toDigits 10 h).length ≤ 6 := (Nat.length_toDigits_le_iff (by omega) (by omega)).mpr (by omega)
  have hsmall : ¬ (400 : Int) < -2 + (Nat.toDigits 10 h).length := by omega
  have hgreat : ¬ (-2 : Int) + (Nat.toDigits 10 h).length < -400 := by omega
  have hplaces : Nat.pow 10 (-(-2 : Int)).toNat = 100 := rfl
  simp only [Binary64.ofDecimal, if_neg (by omega : h ≠ 0), if_neg hsmall, if_neg hgreat, hplaces]
  exact if_pos (by decide)

/-- A shown amount is read as that many bytes, as far as floating point goes. -/
theorem readText_amount (hmany : 100 ≤ h) (hmost : h ≤ 102400) (hk : k ≤ 5) :
    readText (amount h k) =
      (((Binary64.ofRatio false h 100).mulNat (Nat.pow 1024 k)).truncate?).elim (.error .infiniteNumber) fun i =>
        .ok i.toNat := by
  have hne : (amount h k).isEmpty = false := by
    rw [← Bool.not_eq_true, String.isEmpty_iff]
    intro heq
    have hlist := amount_toList h k
    rw [heq] at hlist
    simp [pointed] at hlist
  simp only [readText, strip_amount h hk, upper_amount h hk, hne, Bool.false_eq_true, if_false, isDigitText_amount,
    firstAmount?_amount h hk, value?_pointed hmany, ofDecimal_hundredths hmany hmost]

/-- The floating-point value of some hundredths has at least 42 bits behind its point and is at most half a bit away from
them. -/
theorem exists_ofRatio_hundredths (hmany : 100 ≤ h) (hmost : h ≤ 102400) :
    ∃ m j : Nat, Binary64.ofRatio false h 100 = .finite false m (-(j : Int)) ∧ Binary64.IsFull m ∧ 42 ≤ j ∧ j ≤ 52 ∧
      h * Nat.pow 2 j ≤ 100 * m + 50 ∧ 100 * m ≤ h * Nat.pow 2 j + 50 := by
  have hwhole : h / 100 ≠ 0 := by omega
  have hself : Nat.pow 2 (Nat.log2 (h / 100)) ≤ h / 100 := Nat.log2_self_le hwhole
  have hnext : h / 100 < Nat.pow 2 (Nat.log2 (h / 100) + 1) := Nat.lt_log2_self
  have hbits : Nat.log2 (h / 100) < 11 := (Nat.log2_lt hwhole).mpr (by omega)
  obtain ⟨j, hj⟩ : ∃ j, j = 52 - Nat.log2 (h / 100) := ⟨_, rfl⟩
  have hfull : Nat.pow 2 (Nat.log2 (h / 100)) * Nat.pow 2 j = Nat.pow 2 52 := by
    rw [← Binary64.twoPow_add]
    congr 1
    omega
  have hdouble : Nat.pow 2 (Nat.log2 (h / 100) + 1) * Nat.pow 2 j = Nat.pow 2 53 := by
    rw [← Binary64.twoPow_add]
    congr 1
    omega
  have hunit : Nat.pow 2 42 ≤ Nat.pow 2 j := Nat.pow_le_pow_right (by omega) (by omega)
  have hlow : 100 * Nat.pow 2 52 ≤ h * Nat.pow 2 j := by
    rw [← hfull, ← Nat.mul_assoc]
    exact Nat.mul_le_mul_right _ (by omega)
  have hhigh : (h + 1) * Nat.pow 2 j ≤ 100 * Nat.pow 2 53 := by
    rw [← hdouble, ← Nat.mul_assoc]
    exact Nat.mul_le_mul_right _ (by omega)
  have hnear := Binary64.roundDiv_near (h * Nat.pow 2 j) (by omega : 0 < 100)
  rw [Nat.add_mul, Nat.one_mul] at hhigh
  have hvalues : Nat.pow 2 42 = 4398046511104 ∧ Nat.pow 2 52 = 4503599627370496 ∧
      Nat.pow 2 53 = 9007199254740992 := ⟨rfl, rfl, rfl⟩
  obtain ⟨hbit, hleast, hgreatest⟩ := hvalues
  have hmantissa : Binary64.IsFull (Binary64.roundDiv (h * Nat.pow 2 j) 100) := by
    rw [Binary64.IsFull]
    omega
  refine ⟨_, j, Binary64.ofRatio_eq (by omega) (by omega) (by omega) hlow (by omega) hmantissa.2 false, hmantissa,
    by omega, by omega, by omega, by omega⟩

/-- **The number of bytes that a shown amount gives** is at most a whole one below the amount and at most half a one
above. -/
theorem readText_amount_near (hmany : 100 ≤ h) (hmost : h ≤ 102400) (hk : k ≤ 4 ∨ k = 5 ∧ h < 800) :
    ∃ n, readText (amount h k) = .ok n ∧ h * 1024 ^ k < 100 * n + 100 ∧ 100 * n ≤ h * 1024 ^ k + 50 := by
  obtain ⟨m, j, hvalue, hm, hleast, hgreatest, hlow, hhigh⟩ := exists_ofRatio_hundredths hmany hmost
  have hbits : 10 * k ≤ j := by
    rcases hk with hk | ⟨rfl, hless⟩
    · omega
    · refine Nat.le_of_not_lt fun hj => ?_
      have hpow : Nat.pow 2 j ≤ Nat.pow 2 49 := Nat.pow_le_pow_right (by omega) (by omega)
      have hmul : h * Nat.pow 2 j ≤ 799 * Nat.pow 2 49 := Nat.mul_le_mul (by omega) hpow
      have hfull : 4503599627370496 ≤ m := hm.1
      have hhalf : Nat.pow 2 49 = 562949953421312 := rfl
      omega
  obtain ⟨i, rfl⟩ : ∃ i, j = i + 10 * k := ⟨j - 10 * k, by omega⟩
  have hunit : Nat.pow 1024 k = Nat.pow 2 (10 * k) := unit_eq_twoPow k
  have hread : readText (amount h k) = .ok (m / Nat.pow 2 i) := by
    rw [readText_amount hmany hmost (by omega), hvalue, hunit, Binary64.mulNat_twoPow hm (by omega),
      Binary64.truncate?_eq, Option.elim_some, Int.toNat_natCast]
  refine ⟨_, hread, ?_⟩
  have hpos : 0 < Nat.pow 2 i := Nat.two_pow_pos i
  have hfloor : Nat.pow 2 i * (m / Nat.pow 2 i) + m % Nat.pow 2 i = m := Nat.div_add_mod m _
  have hrest : m % Nat.pow 2 i < Nat.pow 2 i := Nat.mod_lt m hpos
  rw [Binary64.twoPow_add, ← unit_eq_twoPow, Nat.mul_left_comm] at hlow hhigh
  generalize h * 1024 ^ k = bytes at hlow hhigh ⊢
  generalize Nat.pow 2 i = bit at hpos hfloor hrest hlow hhigh ⊢
  generalize m / bit = n at hfloor ⊢
  generalize m % bit = rest at hfloor hrest
  constructor
  · refine Nat.lt_of_not_le fun hle => ?_
    have hmul : bit * (100 * n + 100) ≤ bit * bytes := Nat.mul_le_mul_left bit hle
    rw [Nat.mul_add, Nat.mul_left_comm] at hmul
    omega
  · refine Nat.le_of_not_lt fun hlt => ?_
    have hmul : bit * (bytes + 51) ≤ bit * (100 * n) := Nat.mul_le_mul_left bit hlt
    rw [Nat.mul_add, Nat.mul_left_comm bit 100] at hmul
    omega

/-! ## Both steps -/

/-- What a size is shown as after it has been read from what it is shown as. -/
def again (n : Nat) : Except Fault String := do
  let shown ← text n
  text (← read (.text shown))

theorem again_eq {shown : String} {m : Nat} (hshown : text n = .ok shown) (hread : readText shown = .ok m) :
    again n = text m := by
  have hsize : read (.text shown) = .ok m := hread
  simp only [again, hshown, bind, Except.bind, hsize]

/-- A size is in the unit that it fills, if the next one is beyond it or there is none. -/
theorem power_eq {k : Nat} (hk : k ≤ 5) (hlow : 1024 ^ k ≤ n) (hhigh : k < 5 → n < 1024 ^ (k + 1)) : power n = k := by
  have hn : n ≠ 0 := Nat.pos_iff_ne_zero.mp (Nat.lt_of_lt_of_le (Nat.pow_pos (by omega)) hlow)
  have hlog : k ≤ Nat.log 1024 n := Nat.le_log_of_pow_le (by omega) hlow
  rw [power]
  by_cases hlast : k = 5
  · omega
  · have hless : Nat.log 1024 n < k + 1 := (Nat.log_lt_iff_lt_pow (by omega) hn).mpr (hhigh (by omega))
    omega

theorem lt_pow_power (hn : n ≠ 0) (hpower : power n < 5) : n < 1024 ^ (power n + 1) := by
  refine (Nat.log_lt_iff_lt_pow (by omega) hn).mp ?_
  rw [power] at hpower ⊢
  omega

/-- From half a hundredth below it on, a size is rounded to 1024 of its unit. -/
theorem le_hundredths_iff (n : Nat) : 102400 ≤ hundredths n ↔ 204799 * 1024 ^ power n ≤ 200 * n := by
  have hpos : 0 < 1024 ^ power n := Nat.pow_pos (by omega)
  have hodd : 102399 % 2 = 1 := rfl
  have hround : 102399 + 1 ≤ Binary64.roundDiv (n * 100) (1024 ^ power n) ↔ _ := Binary64.le_roundDiv_iff hpos hodd
  rw [hundredths]
  omega

/-- A size is shown as the amount that is next to it. -/
theorem near_hundredths (n : Nat) :
    2 * (n * 100) ≤ 2 * (1024 ^ power n * hundredths n) + 1024 ^ power n ∧
      2 * (1024 ^ power n * hundredths n) ≤ 2 * (n * 100) + 1024 ^ power n :=
  Binary64.roundDiv_near (n * 100) (Nat.pow_pos (by omega))

/-- No more than 1024 of a unit is shown, and no more than eight of the last. -/
theorem hundredths_le (hn : n ≠ 0) (hmost : n < 2 ^ 53) :
    hundredths n ≤ 102400 ∧ (power n = 5 → hundredths n ≤ 800) := by
  have hpos : 0 < 1024 ^ power n := Nat.pow_pos (by omega)
  obtain ⟨-, hnear⟩ := near_hundredths n
  have hlast : power n = 5 → hundredths n ≤ 800 := by
    intro hpower
    rw [hpower] at hnear
    omega
  refine ⟨?_, hlast⟩
  by_cases hpower : power n = 5
  · have hfew := hlast hpower
    omega
  · have hless := lt_pow_power hn (by rw [power] at hpower ⊢; omega)
    rw [Nat.pow_succ] at hless
    refine Nat.le_of_not_lt fun hgreat => ?_
    have hmul : 1024 ^ power n * 102401 ≤ 1024 ^ power n * hundredths n := Nat.mul_le_mul_left _ hgreat
    omega

/-- A size next to the amount that another is shown as is shown as the same. -/
theorem displayed_eq_of_near (hn : n ≠ 0) (hsteady : power n = 5 ∨ hundredths n < 102400) {m : Nat}
    (hlow : hundredths n * 1024 ^ power n < 100 * m + 100) (hhigh : 100 * m ≤ hundredths n * 1024 ^ power n + 50) :
    displayed m = displayed n := by
  have hleast := hundred_le_hundredths hn
  have hfew : power n ≤ 5 := Nat.min_le_right _ _
  rw [Nat.mul_comm (hundredths n)] at hlow hhigh
  by_cases hzero : power n = 0
  · -- bytes are shown without being rounded
    have hnear := near_hundredths n
    rw [hzero, Nat.pow_zero] at hlow hhigh hnear
    obtain rfl : m = n := by omega
    rfl
  · have hunit : 1024 ≤ 1024 ^ power n := Nat.le_self_pow hzero 1024
    have hreach : 1024 ^ power n * 100 ≤ 1024 ^ power n * hundredths n := Nat.mul_le_mul_left _ hleast
    have hpower : power m = power n := by
      refine power_eq hfew (by omega) fun hless => ?_
      have hmul : 1024 ^ power n * hundredths n ≤ 1024 ^ power n * 102399 := Nat.mul_le_mul_left _ (by omega)
      rw [Nat.pow_succ]
      omega
    have hsame : hundredths m = hundredths n := by
      rw [hundredths, hpower]
      exact Binary64.roundDiv_eq (by omega) (by omega)
    have hm : m ≠ 0 := by omega
    rw [displayed, displayed, if_neg hn, if_neg hm, hpower, hsame]

/-- A size is not shown as 1024 of a unit that has a next one. -/
def Steady (n : Nat) : Prop :=
  power n = 5 ∨ 200 * n < 204799 * 1024 ^ power n

theorem steady_iff (n : Nat) : power n = 5 ∨ hundredths n < 102400 ↔ Steady n := by
  have hround := le_hundredths_iff n
  rw [Steady]
  omega

/-- Eight of the last unit are read as 2^53 bytes, and shown as eight again. -/
theorem readText_eight : readText (amount 800 5) = .ok (2 ^ 53) ∧ text (2 ^ 53 : Nat) = .ok (amount 800 5) := by
  have hvalue : ((Binary64.ofRatio false 800 100).mulNat (Nat.pow 1024 5)).truncate? = some (2 ^ 53) := by decide +kernel
  constructor
  · rw [readText_amount (by omega) (by omega) (by omega), hvalue]
    rfl
  · decide +kernel

/-- What is not shown as 1024 of a unit is shown as the same again. -/
theorem again_of_steady (hmost : n < 2 ^ 53) (hsteady : Steady n) : again n = text n := by
  by_cases hn : n = 0
  · subst hn
    decide +kernel
  · have hleast := hundred_le_hundredths hn
    have hfew : power n ≤ 5 := Nat.min_le_right _ _
    obtain ⟨hlimit, hlast⟩ := hundredths_le hn hmost
    have hshown : displayed n = amount (hundredths n) (power n) := by rw [displayed, if_neg hn]
    have hbelow := (steady_iff n).mpr hsteady
    by_cases height : power n = 5 ∧ hundredths n = 800
    · obtain ⟨hread, htext⟩ := readText_eight
      rw [← height.1, ← height.2, ← hshown] at hread htext
      rw [again_eq (text_eq hmost) hread, htext, text_eq hmost]
    · obtain ⟨m, hread, hlow, hhigh⟩ := readText_amount_near hleast hlimit (by omega : power n ≤ 4 ∨ _)
      have hm : m < 2 ^ 53 := by
        by_cases hpower : power n = 5
        · rw [hpower] at hhigh
          omega
        · have hunit : 1024 ^ power n ≤ 1024 ^ 4 := Nat.pow_le_pow_right (by omega) (by omega)
          have hmul : hundredths n * 1024 ^ power n ≤ 102400 * 1024 ^ 4 := Nat.mul_le_mul hlimit hunit
          omega
      rw [← hshown] at hread
      rw [again_eq (text_eq hmost) hread, text_eq hm, displayed_eq_of_near hn hbelow hlow hhigh, text_eq hmost]

/-- What is shown as 1024 of a unit is read as one of the next, and shown as that. -/
theorem again_of_not_steady (hmost : n < 2 ^ 53) (hsteady : ¬ Steady n) :
    displayed n = amount 102400 (power n) ∧ again n = .ok (amount 100 (power n + 1)) := by
  have hn : n ≠ 0 := by
    rintro rfl
    exact hsteady (.inr (by decide))
  obtain ⟨hlimit, -⟩ := hundredths_le hn hmost
  have hbelow : ¬ (power n = 5 ∨ hundredths n < 102400) := mt (steady_iff n).mp hsteady
  have hfew : power n ≤ 4 := by
    have hleast : power n ≤ 5 := Nat.min_le_right _ _
    omega
  have hfull : hundredths n = 102400 := by omega
  have hshown : displayed n = amount 102400 (power n) := by rw [displayed, if_neg hn, hfull]
  obtain ⟨m, hread, hlow, hhigh⟩ := readText_amount_near (h := 102400) (k := power n) (by omega) (by omega) (.inl hfew)
  have hnext : m = 1024 ^ (power n + 1) := by
    rw [Nat.pow_succ]
    omega
  have hunit : 1024 ^ (power n + 1) ≤ 1024 ^ 5 := Nat.pow_le_pow_right (by omega) (by omega)
  have hpower : power m = power n + 1 := by
    refine power_eq (by omega) hnext.ge fun _ => ?_
    rw [hnext]
    exact Nat.pow_lt_pow_right (by omega) (by omega)
  have hundred : hundredths m = 100 := by
    rw [hundredths, hpower, hnext, Nat.mul_comm]
    exact Binary64.roundDiv_mul_self 100 (Nat.pow_pos (by omega))
  have hm : m ≠ 0 := by
    rw [hnext]
    exact Nat.pos_iff_ne_zero.mp (Nat.pow_pos (by omega))
  rw [← hshown] at hread
  refine ⟨hshown, ?_⟩
  rw [again_eq (text_eq hmost) hread, text_eq (by omega), displayed, if_neg hm, hundred, hpower]

/-- **A size is shown as the same after it has been read again, unless it is shown as 1024 of a unit.**  Exactly then the
number shown is not below 1024 although there is a greater unit. -/
theorem again_eq_iff (hmost : n < 2 ^ 53) :
    text n = .ok (displayed n) ∧ (again n = text n ↔ Steady n) ∧ (power n = 5 ∨ hundredths n < 102400 ↔ Steady n) := by
  refine ⟨text_eq hmost, ⟨fun h => ?_, again_of_steady hmost⟩, steady_iff n⟩
  by_contra hsteady
  obtain ⟨hshown, hagain⟩ := again_of_not_steady hmost hsteady
  have heq : amount 100 (power n + 1) = amount 102400 (power n) := by
    rw [hagain, text_eq hmost, hshown] at h
    exact Except.ok.inj h
  have hlist := congrArg String.toList heq
  rw [amount_toList, amount_toList] at hlist
  have hone : pointed 100 = ['1', '.', '0', '0'] := rfl
  have hmany : pointed 102400 = ['1', '0', '2', '4', '.', '0', '0'] := rfl
  rw [hone, hmany] at hlist
  simp at hlist

/-- One and a half of a unit is shown as that again. -/
theorem again_eq_gigabytes :
    1610612736 < 2 ^ 53 ∧ Steady 1610612736 ∧ text (1610612736 : Nat) = .ok "1.50 GB" ∧
      again 1610612736 = text (1610612736 : Nat) := by
  have hmost : 1610612736 < 2 ^ 53 := by decide
  have hsteady : Steady 1610612736 := .inr (by decide +kernel)
  have hshown : displayed 1610612736 = "1.50 GB" := by decide +kernel
  obtain ⟨htext, hagain, -⟩ := again_eq_iff hmost
  exact ⟨hmost, hsteady, hshown ▸ htext, hagain.mpr hsteady⟩

/-- One byte less than a unit is shown as 1024 of the unit below, and after that as one of the unit. -/
theorem again_below_megabyte :
    text (1048575 : Nat) = .ok "1024.00 KB" ∧ read (.text "1024.00 KB") = .ok 1048576 ∧
      again 1048575 = .ok "1.00 MB" ∧ ¬ Steady 1048575 := by
  have hpower : power 1048575 = 1 := by decide +kernel
  rw [Steady, hpower]
  decide +kernel

end MetaSearch.Size
