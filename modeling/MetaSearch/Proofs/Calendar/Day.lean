import Mathlib.Tactic.SplitIfs
import MetaSearch.Calendar.Date

/-!
# Days by number

Every number below that of the days in the calendar is the number of a day (`isValid_ofDayNumber`): its year lies between
1 and 9999, and month and day are those of the year.  A day and its number determine each other
(`dayNumber_ofDayNumber`, `ofDayNumber_dayNumber`), and numbers grow with the months (`dayNumber_lt_of_month_lt`).
-/

namespace MetaSearch.Date

/-- A day number in parts: full cycles of 400 years, centuries, cycles of four years, single years and days.  The last
year of a cycle has a day more. -/
theorem exists_yearOf_eq (n : Nat) :
    ∃ a b c d rest, yearOf n = a * 400 + b * 100 + c * 4 + d + 1 ∧
      n = a * 146097 + b * 36524 + c * 1461 + d * 365 + rest ∧ b ≤ 3 ∧ c ≤ 24 ∧ d ≤ 3 ∧ rest ≤ 365 ∧
      (rest = 365 → d = 3 ∧ (c = 24 → b = 3)) := by
  have ha : n / 146097 * 146097 + n % 146097 = n := Nat.div_add_mod' n 146097
  have hcycle : n % 146097 < 146097 := Nat.mod_lt n (by omega)
  obtain ⟨b, hb⟩ : ∃ b, b = min (n % 146097 / 36524) 3 := ⟨_, rfl⟩
  obtain ⟨r, hr⟩ : ∃ r, r = n % 146097 - b * 36524 := ⟨_, rfl⟩
  obtain ⟨d, hd⟩ : ∃ d, d = min (r % 1461 / 365) 3 := ⟨_, rfl⟩
  refine ⟨n / 146097, b, r / 1461, d, r % 1461 - d * 365, ?_, ?_, ?_, ?_, ?_, ?_, ?_⟩
  · rw [hd, hr, hb]
    rfl
  all_goals omega

/-- A day lies in its year. -/
theorem daysBeforeYear_yearOf (n : Nat) :
    daysBeforeYear (yearOf n) ≤ n ∧ n < daysBeforeYear (yearOf n) + daysInYear (yearOf n) := by
  obtain ⟨a, b, c, d, rest, hyear, hn, hb, hc, hd, hrest, hlast⟩ := exists_yearOf_eq n
  have hbefore : daysBeforeYear (yearOf n) = a * 146097 + b * 36524 + c * 1461 + d * 365 := by
    have hfour : (a * 400 + b * 100 + c * 4 + d) / 4 = a * 100 + b * 25 + c := by omega
    have hcentury : (a * 400 + b * 100 + c * 4 + d) / 100 = a * 4 + b := by omega
    have hcycle : (a * 400 + b * 100 + c * 4 + d) / 400 = a := by omega
    simp only [daysBeforeYear, hyear, Nat.add_sub_cancel, hfour, hcentury, hcycle]
    omega
  have hleap : rest = 365 → isLeap (yearOf n) = true := by
    intro hfull
    obtain ⟨hd, hc⟩ := hlast hfull
    simp only [isLeap, hyear, Bool.and_eq_true, Bool.or_eq_true, beq_iff_eq, bne_iff_ne]
    omega
  rw [hbefore, daysInYear]
  refine ⟨by omega, ?_⟩
  split_ifs with h
  · omega
  · have hshort : rest ≠ 365 := mt hleap h
    omega

/-- The calendar ends with the year 9999. -/
theorem yearOf_le {n : Nat} (h : n < calendarDays) : 1 ≤ yearOf n ∧ yearOf n ≤ 9999 := by
  obtain ⟨a, b, c, d, rest, hyear, hn, hb, hc, hd, hrest, -⟩ := exists_yearOf_eq n
  rw [calendarDays] at h
  omega

/-- No month has more than 31 days. -/
theorem daysInMonth_le (y m : Nat) : daysInMonth y m ≤ 31 := by
  unfold daysInMonth
  split <;> (try split) <;> omega

/-- The months of a year have as many days as the year. -/
theorem daysBeforeMonth_thirteen (y : Nat) : daysBeforeMonth y 13 = daysInYear y := by
  simp only [daysBeforeMonth, daysInMonth, daysInYear]
  split_ifs <;> rfl

/-- A month follows on the days of the one before. -/
theorem daysBeforeMonth_succ {m : Nat} (y : Nat) (hm : 1 ≤ m) :
    daysBeforeMonth y (m + 1) = daysBeforeMonth y m + daysInMonth y m := by
  cases m with
  | zero => omega
  | succ m => rfl

theorem daysBeforeMonth_le {m k : Nat} (y : Nat) (hm : 1 ≤ m) (h : m ≤ k) :
    daysBeforeMonth y m ≤ daysBeforeMonth y k := by
  induction h with
  | refl => exact Nat.le_refl _
  | step h ih =>
      rw [Nat.succ_eq_add_one, daysBeforeMonth_succ y (Nat.le_trans hm h)]
      omega

/-- A day is found in the month that holds it, as long as there is one. -/
theorem monthFrom_spec {y left m n : Nat} (hm : 1 ≤ m)
    (h : daysBeforeMonth y m + n < daysBeforeMonth y (m + left + 1)) :
    m ≤ (monthFrom y left m n).1 ∧ (monthFrom y left m n).1 ≤ m + left ∧ 1 ≤ (monthFrom y left m n).2 ∧
      (monthFrom y left m n).2 ≤ daysInMonth y (monthFrom y left m n).1 := by
  induction left generalizing m n with
  | zero =>
      rw [Nat.add_zero, daysBeforeMonth_succ y hm] at h
      simp only [monthFrom]
      omega
  | succ left ih =>
      rw [monthFrom]
      split_ifs with hhere
      · dsimp only
        omega
      · have hstep := daysBeforeMonth_succ y hm
        have hlater := ih (m := m + 1) (n := n - daysInMonth y m) (by omega)
          (by rw [hstep, show m + 1 + left + 1 = m + (left + 1) + 1 by omega]; omega)
        omega

/-- A day of the calendar has a year from 1 to 9999, a month, and a day of that month. -/
theorem isValid_iff {d : Date} : d.isValid = true ↔ (1 ≤ d.year ∧ d.year ≤ 9999) ∧ (1 ≤ d.month ∧ d.month ≤ 12) ∧
    1 ≤ d.day ∧ d.day ≤ daysInMonth d.year d.month := by
  simp only [isValid, Bool.and_eq_true, decide_eq_true_eq, and_assoc]

/-- **Every number of a day in the calendar is that of a day.** -/
theorem isValid_ofDayNumber {n : Nat} (h : n < calendarDays) : (ofDayNumber n).isValid = true := by
  obtain ⟨hfirst, hlast⟩ := yearOf_le h
  obtain ⟨hbefore, hafter⟩ := daysBeforeYear_yearOf n
  have hinside : daysBeforeMonth (yearOf n) 1 + (n - daysBeforeYear (yearOf n)) <
      daysBeforeMonth (yearOf n) (1 + 11 + 1) := by
    have hstart : daysBeforeMonth (yearOf n) 1 = 0 := rfl
    rw [hstart, daysBeforeMonth_thirteen]
    omega
  have hmonth := monthFrom_spec (by omega) hinside
  rcases hpair : monthFrom (yearOf n) 11 1 (n - daysBeforeYear (yearOf n)) with ⟨m, d⟩
  have hday : ofDayNumber n = ⟨yearOf n, m, d⟩ := by
    simp only [ofDayNumber, hpair]
  simp only [hpair] at hmonth
  rw [hday, isValid_iff]
  dsimp only
  omega

/-- A year follows on the days of the one before. -/
theorem daysBeforeYear_succ {y : Nat} (h : 1 ≤ y) : daysBeforeYear (y + 1) = daysBeforeYear y + daysInYear y := by
  obtain ⟨p, rfl⟩ : ∃ p, y = p + 1 := ⟨y - 1, by omega⟩
  have hless : p / 100 ≤ p / 4 := by omega
  have hleap : isLeap (p + 1) = true ↔ (p + 1) % 4 = 0 ∧ ((p + 1) % 100 ≠ 0 ∨ (p + 1) % 400 = 0) := by
    simp [isLeap]
  have hyear : daysInYear (p + 1) = if (p + 1) % 4 = 0 ∧ ((p + 1) % 100 ≠ 0 ∨ (p + 1) % 400 = 0) then 366 else 365 := by
    simp only [daysInYear, hleap]
  -- the number of days grows with each of the three quotients, and these by one at most
  have hstep : ∀ k, (p + 1) / k = if (p + 1) % k = 0 then p / k + 1 else p / k := by
    intro k
    simp only [Nat.succ_div, Nat.dvd_iff_mod_eq_zero]
    split_ifs <;> rfl
  simp only [daysBeforeYear, Nat.add_sub_cancel, hstep 4, hstep 100, hstep 400, hyear]
  by_cases hfour : (p + 1) % 4 = 0
  · by_cases hcentury : (p + 1) % 100 = 0
    · by_cases hcycle : (p + 1) % 400 = 0
      · rw [if_pos hfour, if_pos hcentury, if_pos hcycle, if_pos ⟨hfour, .inr hcycle⟩]
        omega
      · rw [if_pos hfour, if_pos hcentury, if_neg hcycle, if_neg (by omega)]
        omega
    · rw [if_pos hfour, if_neg hcentury, if_neg (by omega), if_pos ⟨hfour, .inl hcentury⟩]
      omega
  · rw [if_neg hfour, if_neg (by omega), if_neg (by omega), if_neg (by omega)]
    omega

theorem daysBeforeYear_le {y z : Nat} (hy : 1 ≤ y) (h : y ≤ z) : daysBeforeYear y ≤ daysBeforeYear z := by
  induction h with
  | refl => exact Nat.le_refl _
  | step h ih =>
      rw [Nat.succ_eq_add_one, daysBeforeYear_succ (Nat.le_trans hy h)]
      omega

/-- A day in a month of the year is followed by the days of the later months. -/
theorem day_le_of_month_lt {d : Date} (h : d.isValid = true) {m : Nat} (hm : d.month < m) :
    daysBeforeMonth d.year d.month + d.day ≤ daysBeforeMonth d.year m := by
  have hfields := isValid_iff.mp h
  have hnext := daysBeforeMonth_succ d.year (m := d.month) (by omega)
  have hlater := daysBeforeMonth_le d.year (by omega : 1 ≤ d.month + 1) hm
  omega

/-- A day lies before the years that follow its own. -/
theorem dayNumber_lt_of_year_lt {d : Date} (h : d.isValid = true) {y : Nat} (hy : d.year < y) :
    d.dayNumber < daysBeforeYear y := by
  have hfields := isValid_iff.mp h
  have hmonth := day_le_of_month_lt h (by omega : d.month < 13)
  rw [daysBeforeMonth_thirteen] at hmonth
  have hyear := daysBeforeYear_le (by omega) (by omega : d.year + 1 ≤ y)
  rw [daysBeforeYear_succ (by omega)] at hyear
  simp only [dayNumber]
  omega

/-- The number of a day in the calendar is below that of all its days. -/
theorem dayNumber_lt {d : Date} (h : d.isValid = true) : d.dayNumber < calendarDays := by
  have hyear : d.year < 10000 := Nat.lt_succ_of_le (isValid_iff.mp h).1.2
  exact dayNumber_lt_of_year_lt h hyear

/-! ## Days and their numbers -/

/-- The day that is found is the one that was looked for. -/
theorem daysBeforeMonth_monthFrom {y left m : Nat} (n : Nat) (hm : 1 ≤ m) :
    daysBeforeMonth y (monthFrom y left m n).1 + ((monthFrom y left m n).2 - 1) = daysBeforeMonth y m + n := by
  induction left generalizing m n with
  | zero => rfl
  | succ left ih =>
      rw [monthFrom]
      split_ifs with hhere
      · rfl
      · rw [ih _ (by omega), daysBeforeMonth_succ y hm]
        omega

/-- **A number of a day is the number of the day that it stands for.** -/
theorem dayNumber_ofDayNumber (n : Nat) : (ofDayNumber n).dayNumber = n := by
  have hday : daysBeforeMonth (yearOf n) (monthFrom (yearOf n) 11 1 (n - daysBeforeYear (yearOf n))).1 +
      ((monthFrom (yearOf n) 11 1 (n - daysBeforeYear (yearOf n))).2 - 1) =
        daysBeforeMonth (yearOf n) 1 + (n - daysBeforeYear (yearOf n)) :=
    daysBeforeMonth_monthFrom _ (Nat.le_refl 1)
  have hyear := (daysBeforeYear_yearOf n).1
  have hstart : daysBeforeMonth (yearOf n) 1 = 0 := rfl
  rw [hstart] at hday
  rcases hpair : monthFrom (yearOf n) 11 1 (n - daysBeforeYear (yearOf n)) with ⟨m, d⟩
  simp only [hpair] at hday
  simp only [ofDayNumber, hpair, dayNumber]
  omega

/-- A day of an earlier month is an earlier day. -/
theorem dayNumber_lt_of_month_lt {a b : Date} (ha : a.isValid = true) (hb : b.isValid = true)
    (h : a.year * 12 + a.month < b.year * 12 + b.month) : a.dayNumber < b.dayNumber := by
  have hfieldsA := isValid_iff.mp ha
  have hfieldsB := isValid_iff.mp hb
  by_cases hyear : a.year < b.year
  · have hbefore := dayNumber_lt_of_year_lt ha hyear
    rw [dayNumber.eq_1 b]
    omega
  · have hsame : a.year = b.year := by omega
    have hmonth := day_le_of_month_lt ha (by omega : a.month < b.month)
    simp only [dayNumber, ← hsame]
    omega

theorem eq_of_fields_eq {a b : Date} (hyear : a.year = b.year) (hmonth : a.month = b.month) (hday : a.day = b.day) :
    a = b := by
  cases a
  cases b
  cases hyear
  cases hmonth
  cases hday
  rfl

/-- A count of months tells the year and the month. -/
theorem year_eq_and_month_eq {a b : Date} (ha : a.isValid = true) (hb : b.isValid = true)
    (h : a.year * 12 + a.month = b.year * 12 + b.month) : a.year = b.year ∧ a.month = b.month := by
  have hfieldsA := isValid_iff.mp ha
  have hfieldsB := isValid_iff.mp hb
  omega

/-- Days with the same number are the same day. -/
theorem eq_of_dayNumber_eq {a b : Date} (ha : a.isValid = true) (hb : b.isValid = true)
    (h : a.dayNumber = b.dayNumber) : a = b := by
  have hmonths : a.year * 12 + a.month = b.year * 12 + b.month := by
    rcases Nat.lt_trichotomy (a.year * 12 + a.month) (b.year * 12 + b.month) with hless | hsame | hgreater
    · exact absurd h (Nat.ne_of_lt (dayNumber_lt_of_month_lt ha hb hless))
    · exact hsame
    · exact absurd h.symm (Nat.ne_of_lt (dayNumber_lt_of_month_lt hb ha hgreater))
  obtain ⟨hyear, hmonth⟩ := year_eq_and_month_eq ha hb hmonths
  have hfieldsA := isValid_iff.mp ha
  have hfieldsB := isValid_iff.mp hb
  unfold dayNumber at h
  rw [hyear, hmonth] at h
  exact eq_of_fields_eq hyear hmonth (by omega)

/-- **A day is the day of its number.** -/
theorem ofDayNumber_dayNumber {d : Date} (h : d.isValid = true) : ofDayNumber d.dayNumber = d :=
  eq_of_dayNumber_eq (isValid_ofDayNumber (dayNumber_lt h)) h (dayNumber_ofDayNumber d.dayNumber)

end MetaSearch.Date
