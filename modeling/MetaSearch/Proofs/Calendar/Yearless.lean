import Mathlib.Data.List.Basic
import MetaSearch.Proofs.Calendar.Shown
import MetaSearch.Proofs.Number.Written
import MetaSearch.Proofs.Text.Trimmed

/-!
# Days without a year

A day written without its year is read in the year 1900.  From there it is moved into the year on the clock, or into the
year before where it would lie more than a day ahead (`mostRecent_eq`).  So a day of the last months is found again with
its own year (`absolute?_monthDay_iff`), except for a 29 February, which the year 1900 does not have.
-/

namespace MetaSearch

namespace Date

/-! ## Days in other years -/

/-- The day that only leap years have. -/
def IsLeapDay (d : Date) : Prop :=
  d.month = 2 ∧ d.day = 29

instance : DecidablePred IsLeapDay := fun d =>
  inferInstanceAs (Decidable (d.month = 2 ∧ d.day = 29))

theorem daysInMonth_of_ne_two {m : Nat} (hm : m ≠ 2) (y z : Nat) : daysInMonth y m = daysInMonth z m := by
  unfold daysInMonth
  split
  · exact absurd rfl hm
  · rfl
  · rfl
  · rfl
  · rfl
  · rfl

/-- Every year has the other days. -/
theorem isValid_inYear {d : Date} (hd : d.isValid = true) (hleap : ¬ d.IsLeapDay) {y : Nat} (hy : 1 ≤ y ∧ y ≤ 9999) :
    (⟨y, d.month, d.day⟩ : Date).isValid = true := by
  obtain ⟨-, hmonth, hfirst, hday⟩ := isValid_iff.mp hd
  have hlast : d.day ≤ daysInMonth y d.month := by
    by_cases hfebruary : d.month = 2
    · have hshort : 28 ≤ daysInMonth y 2 := by
        simp only [daysInMonth]
        split_ifs <;> omega
      have hlong : daysInMonth d.year 2 ≤ 29 := by
        simp only [daysInMonth]
        split_ifs <;> omega
      have hother : d.day ≠ 29 := fun h => hleap ⟨hfebruary, h⟩
      rw [hfebruary] at hday ⊢
      omega
    · rwa [daysInMonth_of_ne_two hfebruary y d.year]
  exact isValid_iff.mpr ⟨hy, hmonth, hfirst, hlast⟩

/-- A leap year has its longer February in return for the longer way through it. -/
theorem daysBeforeMonth_add_le (y z : Nat) {m : Nat} (hm : 1 ≤ m) :
    daysBeforeMonth y m + 365 ≤ daysInYear y + daysBeforeMonth z m := by
  have hyear : 365 ≤ daysInYear y := by
    unfold daysInYear
    split_ifs <;> omega
  match m with
  | 1 | 2 =>
      simp only [daysBeforeMonth, daysInMonth]
      omega
  | k + 3 =>
      induction k with
      | zero =>
          simp only [daysBeforeMonth, daysInMonth, daysInYear]
          split_ifs <;> omega
      | succ k ih =>
          have hsame := daysInMonth_of_ne_two (by omega : k + 3 ≠ 2) y z
          rw [daysBeforeMonth_succ y (by omega), daysBeforeMonth_succ z (by omega), hsame]
          have hbefore := ih (by omega)
          omega

/-- From a day to the same day of the next year it is 365 days or more. -/
theorem dayNumber_add_le {d : Date} (hd : d.isValid = true) :
    d.dayNumber + 365 ≤ dayNumber ⟨d.year + 1, d.month, d.day⟩ := by
  obtain ⟨hyears, hmonths, -⟩ := isValid_iff.mp hd
  have hmonth := daysBeforeMonth_add_le d.year (d.year + 1) hmonths.1
  have hnext := daysBeforeYear_succ hyears.1
  simp only [dayNumber]
  omega

/-! ## Days written without a year -/

/-- The short name of a month. -/
def shortMonth (month : Nat) : String :=
  ["Jan", "Feb", "Mar", "Apr", "May", "Jun", "Jul", "Aug", "Sep", "Oct", "Nov", "Dec"].getD (month - 1) ""

/-- A day as the short name of its month and two digits. -/
def monthDay (d : Date) : String :=
  shortMonth d.month ++ " " ++ Text.padded 2 d.day

theorem toList_monthDay (d : Date) :
    d.monthDay.toList = (shortMonth d.month).toList ++ ' ' :: (Text.padded 2 d.day).toList := by
  simp [monthDay]

end Date

namespace Layout

open Date

/-- A form that a text is long enough for takes nothing of what follows. -/
theorem afterForm?_append {form : List Place} {s : List Char} (h : form.length ≤ s.length) (rest : List Char) :
    afterForm? form (s ++ rest) = (afterForm? form s).map (· ++ rest) := by
  induction form generalizing s with
  | nil => rfl
  | cons p form ih =>
      cases s with
      | nil => simp at h
      | cons c s =>
          simp only [List.cons_append, afterForm?]
          split_ifs
          · exact ih (Nat.le_of_succ_le_succ h)
          · rfl

/-- Neither does a field whose forms a text is long enough for. -/
theorem readings_field_append {f : Field} {s : List Char} (h : ∀ form ∈ f.forms, form.length ≤ s.length)
    (rest : List Char) :
    (Element.field f).readings (s ++ rest) =
      ((Element.field f).readings s).map fun found => (found.1, found.2 ++ rest) := by
  simp only [Element.readings, List.map_filterMap]
  apply List.filterMap_congr
  intro form hform
  rw [afterForm?_append (h form hform), List.take_append_of_le_length (h form hform)]
  cases afterForm? form s <;> rfl

/-- A field is read in its first way where the rest can be read after it. -/
theorem readAll_field {f : Field} {es : List Element} {s taken after rest : List Char}
    {fields : List (Field × List Char)} {more : List (List Char × List Char)}
    (hfield : (Element.field f).readings s = (taken, after) :: more) (hrest : readAll es after = some (fields, rest)) :
    readAll (.field f :: es) s = some ((f, taken) :: fields, rest) := by
  rw [readAll, hfield]
  simp only [List.findSome?_cons, hrest, Option.map_some]

/-- A single blank is passed over. -/
theorem readAll_blank {es : List Element} {c : Char} {s : List Char} (hc : Text.isBlank c = true)
    (hs : ∀ d, s.head? = some d → Text.isBlank d = false) : readAll (.blanks :: es) (c :: s) = readAll es s := by
  have hrun : (c :: s).takeWhile Text.isBlank = [c] := by
    rw [List.takeWhile_cons_of_pos hc]
    cases s with
    | nil => rfl
    | cons d s => rw [List.takeWhile_cons_of_neg (by simp [hs d rfl])]
  rw [readAll, Element.readings, hrun]
  simp

/-- The short name of a month is read whatever follows it. -/
theorem readings_shortMonth {month : Nat} (h : 1 ≤ month ∧ month ≤ 12) (rest : List Char) :
    (Element.field .shortMonth).readings ((shortMonth month).toList ++ rest) = [((shortMonth month).toList, rest)] := by
  have hlengths : ∀ form ∈ Field.forms .shortMonth, form.length = 3 := by decide
  have hnames : ∀ i < 12, (shortMonth (i + 1)).toList.length = 3 ∧
      (Element.field .shortMonth).readings (shortMonth (i + 1)).toList = [((shortMonth (i + 1)).toList, [])] := by
    decide +kernel
  obtain ⟨hlength, hname⟩ := hnames (month - 1) (by omega)
  rw [Nat.sub_add_cancel h.1] at hlength hname
  rw [readings_field_append fun form hform => by rw [hlengths form hform, hlength], hname]
  rfl

/-- Two digits are read as a day. -/
theorem readings_day {day : Nat} (h : 1 ≤ day ∧ day ≤ 31) :
    ∃ more, (Element.field .day).readings (Text.padded 2 day).toList = ((Text.padded 2 day).toList, []) :: more := by
  have hdays : ∀ i < 31, ((Element.field .day).readings (Text.padded 2 (i + 1)).toList).head? =
      some ((Text.padded 2 (i + 1)).toList, []) := by
    decide +kernel
  have hday := hdays (day - 1) (by omega)
  rw [Nat.sub_add_cancel h.1] at hday
  exact List.head?_eq_some_iff.mp hday

theorem position?_shortMonth {month : Nat} (h : 1 ≤ month ∧ month ≤ 12) :
    position? shortMonthNames (shortMonth month).toList = some (month - 1) := by
  have hnames : ∀ i < 12, position? shortMonthNames (shortMonth (i + 1)).toList = some i := by decide +kernel
  have hname := hnames (month - 1) (by omega)
  rwa [Nat.sub_add_cancel h.1] at hname

/-- A text that is used up by fields of a date is read as they reckon. -/
theorem reading?_of_readAll {ps : List Piece} {text : String} {fields : List (Field × List Char)} {month day : Nat}
    (hrepeats : repeats ps = false) (hread : readAll (elements ps) text.toList = some (fields, []))
    (hhalf : fields.find? (·.1 == .half) = none)
    (hreckoned : fields.foldlM (Reckoning.add none) {} = some { month := month, day := day }) :
    reading? ps text = .ok (Reading.ofDate? ⟨1900, month, day⟩ 0 none) := by
  rw [reading?, hrepeats, hread]
  simp only [Bool.false_eq_true, if_false, Option.bind_eq_bind, Option.bind_some, List.isEmpty_nil, Bool.not_true,
    hhalf, Option.bind_none, hreckoned, Option.map_none, Option.getD_none, Bool.or_false, decide_eq_true_eq]
  rw [if_neg (Nat.not_lt_zero 59)]

/-- **A day without its year is read in the year 1900.** -/
theorem reading?_monthDay {d : Date} (hd : d.isValid = true) :
    reading? (pieces "Jan 02") d.monthDay = .ok (Reading.ofDate? ⟨1900, d.month, d.day⟩ 0 none) := by
  obtain ⟨-, hmonth, hfirst, hlast⟩ := isValid_iff.mp hd
  have hday : 1 ≤ d.day ∧ d.day ≤ 31 := ⟨hfirst, Nat.le_trans hlast (daysInMonth_le d.year d.month)⟩
  have hpieces : pieces "Jan 02" = [.field .shortMonth, .literal ' ', .field .day] := by decide
  have helements : elements (pieces "Jan 02") = [.field .shortMonth, .blanks, .field .day] := by decide
  have hrepeats : repeats (pieces "Jan 02") = false := by decide
  obtain ⟨more, hdayRead⟩ := readings_day hday
  have hread : readAll (elements (pieces "Jan 02")) d.monthDay.toList =
      some ([(.shortMonth, (shortMonth d.month).toList), (.day, (Text.padded 2 d.day).toList)], []) := by
    rw [helements, toList_monthDay]
    apply readAll_field (readings_shortMonth hmonth _)
    rw [readAll_blank (by decide)]
    · exact readAll_field hdayRead rfl
    · intro c hc
      exact (Text.isBlank_and_upperExpansion_of_isDigit (Text.isDigit_of_mem_padded (List.mem_of_mem_head? hc))).1
  have hnumber : number (Text.padded 2 d.day).toList = d.day := Text.ofDigits_padded 2 d.day
  have hreckoned : List.foldlM (Reckoning.add none) {}
      [(Field.shortMonth, (shortMonth d.month).toList), (.day, (Text.padded 2 d.day).toList)] =
      some { month := d.month, day := d.day } := by
    simp only [List.foldlM_cons, List.foldlM_nil, Reckoning.add, position?_shortMonth hmonth, hnumber,
      Option.map_some, Nat.sub_add_cancel hmonth.1]
    rfl
  exact reading?_of_readAll hrepeats hread rfl hreckoned

end Layout

namespace Calendar

/-! ## The most recent such day -/

/-- A moment of universal time is what a reading shows, but for the year. -/
structure IsInYear (r : Reading) (year : Nat) (m : Moment) : Prop where
  date : m.date = ⟨year, (Date.ofDayNumber (r.ticks / ticksPerDay)).month,
    (Date.ofDayNumber (r.ticks / ticksPerDay)).day⟩
  ofDay : m.ofDay = r.ticks % ticksPerDay
  offset : m.offset = 0

theorem IsInYear.year {r : Reading} {year : Nat} {m : Moment} (hm : IsInYear r year m) : 1 ≤ year ∧ year ≤ 9999 := by
  have hyear := (Date.isValid_iff.mp m.isValid_date).1
  rwa [hm.date] at hyear

theorem inYear_eq {r : Reading} {year : Nat} {m : Moment} (hr : r.offset = none) (hm : IsInYear r year m) :
    ∃ r', inYear r year = .ok r' ∧ r'.toUniversal = .ok m := by
  have hyear := hm.year
  obtain ⟨r', hread, -, -, huniversal⟩ := Moment.exists_reading hm.offset (rfl : (none : Option Int).getD 0 = 0)
  rw [hm.date, hm.ofDay] at hread
  refine ⟨r', ?_, huniversal⟩
  rw [inYear, if_neg (by omega)]
  simp only [Int.toNat_natCast, hr, hread]

/-- **The most recent day** is that of the year on the clock, or that of the year before where the former lies more than a
day ahead. -/
theorem mostRecent_eq {r : Reading} {now here before : Moment} (hr : r.offset = none)
    (hhere : IsInYear r now.date.year here) (hbefore : IsInYear r (now.date.year - 1) before)
    (hlimit : now.ticks + ticksPerDay < calendarTicks) :
    mostRecent r now =
      .ok (if now.universalTicks + ticksPerDay < here.universalTicks then before else here) := by
  obtain ⟨thisYear, hthis, hthisMoment⟩ := inYear_eq hr hhere
  obtain ⟨lastYear, hlast, hlastMoment⟩ := inYear_eq hr hbefore
  have hpast : ((now.date.year : Int) - 1) = ((now.date.year - 1 : Nat) : Int) := by
    have hyear := hbefore.year
    omega
  obtain ⟨limit, hshift⟩ : ∃ limit, now.shift ticksPerDay = .ok limit := by
    have hok : (now.shift ticksPerDay).isOk = true := by
      rw [Moment.shift_isOk_iff]
      omega
    exact exists_of_isOk hok
  have hahead : limit.before here = decide (now.universalTicks + ticksPerDay < here.universalTicks) := by
    have hticks := Moment.ticks_of_shift hshift
    have hoffset := Moment.offset_of_shift hshift
    have huniversal : limit.universalTicks = now.universalTicks + ticksPerDay := by
      simp only [Moment.universalTicks, hticks, hoffset]
      omega
    rw [Moment.before, huniversal]
  rw [mostRecent, hpast, hthis, hlast, hshift]
  simp only [bind, Except.bind, hthisMoment, hlastMoment, hahead, decide_eq_true_eq]
  split_ifs <;> rfl

/-! ## Days read back -/

/-- A moment is midnight at the start of a day, in universal time. -/
structure IsMidnight (d : Date) (m : Moment) : Prop where
  date : m.date = d
  ofDay : m.ofDay = 0
  offset : m.offset = 0

theorem exists_isMidnight {d : Date} (hd : d.isValid = true) : ∃ m, IsMidnight d m := by
  obtain ⟨m, hm⟩ := Option.isSome_iff_exists.mp (Moment.isSome_ofDate? hd (by decide : 0 < ticksPerDay) 0)
  obtain ⟨hdate, hofDay, hoffset⟩ := Moment.ofDate?_eq_some_iff.mp hm
  exact ⟨m, hdate, hofDay, hoffset⟩

theorem IsMidnight.eq {d : Date} {m u : Moment} (hm : IsMidnight d m) (hu : IsMidnight d u) : m = u :=
  Moment.eq_of_date_eq (hm.date.trans hu.date.symm) (hm.ofDay.trans hu.ofDay.symm) (hm.offset.trans hu.offset.symm)

theorem IsMidnight.universalTicks {d : Date} {m : Moment} (hm : IsMidnight d m) :
    m.universalTicks = (d.dayNumber * ticksPerDay : Nat) := by
  rw [Moment.universalTicks, hm.offset, Moment.ticks_eq, hm.date, hm.ofDay, Nat.add_zero, Int.sub_zero]

/-- From midnight of a day to midnight of the same day of the next year it is 365 days or more. -/
theorem IsMidnight.add_le {d : Date} {m u : Moment} (hm : IsMidnight d m)
    (hu : IsMidnight ⟨d.year + 1, d.month, d.day⟩ u) : m.universalTicks + 365 * ticksPerDay ≤ u.universalTicks := by
  have hd : d.isValid = true := hm.date ▸ m.isValid_date
  have hmul := Nat.mul_le_mul_right ticksPerDay (Date.dayNumber_add_le hd)
  rw [Nat.add_mul] at hmul
  rw [hm.universalTicks, hu.universalTicks]
  omega

/-- Less than 364 days after midnight of a day, a clock that is no more than a day ahead shows one of the 365 days from
that day on. -/
theorem IsMidnight.dayNumber_lt {d : Date} {m now : Moment} (hm : IsMidnight d m) (hoffset : now.offset ≤ ticksPerDay)
    (hrecent : now.universalTicks < m.universalTicks + 364 * ticksPerDay) :
    now.date.dayNumber < d.dayNumber + 365 := by
  have hticks := Moment.ticks_eq now
  rw [hm.universalTicks] at hrecent
  unfold Moment.universalTicks at hrecent
  by_contra hfar
  have hmul := Nat.mul_le_mul_right ticksPerDay (Nat.le_of_not_lt hfar)
  rw [Nat.add_mul] at hmul
  omega

/-- The text of a day begins with a letter and ends with a digit. -/
theorem strip_monthDay {d : Date} (hd : d.isValid = true) : Text.strip d.monthDay = d.monthDay := by
  obtain ⟨-, hmonth, -, hday⟩ := Date.isValid_iff.mp hd
  have hlast := Date.daysInMonth_le d.year d.month
  have hnames : ∀ i < 12, (Date.shortMonth (i + 1)).toList.head?.any (!Text.isBlank ·) = true := by decide
  have hname := hnames (d.month - 1) (by omega)
  rw [Nat.sub_add_cancel hmonth.1] at hname
  have hdigits : (Text.padded 2 d.day).toList.length = 2 :=
    Text.length_padded_of_lt (by decide) (Nat.lt_of_le_of_lt hday (by omega))
  apply Text.strip_of_edges
  · intro c hc
    rw [Date.toList_monthDay, List.head?_append] at hc
    cases hfirst : (Date.shortMonth d.month).toList.head? with
    | none => simp [hfirst] at hname
    | some first =>
        obtain rfl : first = c := by simpa [hfirst] using hc
        simpa [hfirst] using hname
  · intro c hc
    rw [Date.toList_monthDay, List.getLast?_append, List.getLast?_cons] at hc
    cases hdigit : (Text.padded 2 d.day).toList.getLast? with
    | none => simp [List.getLast?_eq_none_iff.mp hdigit] at hdigits
    | some digit =>
        obtain rfl : digit = c := by simpa [hdigit] using hc
        exact (Text.isBlank_and_upperExpansion_of_isDigit
          (Text.isDigit_of_mem_padded (List.mem_of_getLast? hdigit))).1

/-- The year 1900 had no 29 February. -/
theorem absolute?_leapDay {d : Date} (hd : d.isValid = true) (hleap : d.IsLeapDay) (now : Moment) :
    absolute? d.monthDay (some "Jan 02") now = .ok none := by
  have hread := Layout.reading?_monthDay hd
  have hnone : Reading.ofDate? ⟨1900, 2, 29⟩ 0 none = none := by decide
  rw [hleap.1, hleap.2, hnone] at hread
  simp only [absolute?, strip_monthDay hd, byLayout?, hread]
  split_ifs <;> rfl

/-- **Any other day without its year is the most recent such day**: that of the year on the clock, or that of the year
before where the former lies more than a day ahead. -/
theorem absolute?_monthDay {d : Date} (hd : d.isValid = true) (hleap : ¬ d.IsLeapDay) {now here before : Moment}
    (hhere : IsMidnight ⟨now.date.year, d.month, d.day⟩ here)
    (hbefore : IsMidnight ⟨now.date.year - 1, d.month, d.day⟩ before) (hlimit : now.ticks + ticksPerDay < calendarTicks) :
    absolute? d.monthDay (some "Jan 02") now =
      .ok (some (if now.universalTicks + ticksPerDay < here.universalTicks then before else here)) := by
  have hyear : Layout.namesYear (Layout.pieces "Jan 02") = false := by decide
  have hfull : d.monthDay.isEmpty = false := by
    simp [Date.monthDay]
  obtain ⟨u, hu⟩ := exists_isMidnight (Date.isValid_inYear hd hleap (by decide : 1 ≤ 1900 ∧ 1900 ≤ 9999))
  obtain ⟨r, hr, hticks, hoffset, -⟩ := Moment.exists_reading hu.offset (rfl : (none : Option Int).getD 0 = 0)
  have hshown : Date.ofDayNumber (r.ticks / ticksPerDay) = ⟨1900, d.month, d.day⟩ := by
    rw [hticks]
    exact hu.date
  have htime : r.ticks % ticksPerDay = 0 := by
    rw [hticks]
    exact hu.ofDay
  have hread := Layout.reading?_monthDay hd
  rw [hu.date, hu.ofDay] at hr
  rw [hr] at hread
  have hinYear : ∀ {year : Nat} {v : Moment}, IsMidnight ⟨year, d.month, d.day⟩ v → IsInYear r year v := by
    intro year v hv
    exact ⟨by rw [hshown, hv.date], by rw [htime, hv.ofDay], hv.offset⟩
  have hrecent := mostRecent_eq hoffset (hinYear hhere) (hinYear hbefore) hlimit
  simp only [absolute?, strip_monthDay hd, hfull, byLayout?, hread, hyear, Bool.false_eq_true, if_false, bind,
    Except.bind]
  rw [hrecent]
  rfl

variable {d : Date} {now m : Moment}

/-- Within 365 days the year turns once at most. -/
theorem year_of_recent (hd : d.isValid = true) (hpast : d.dayNumber ≤ now.date.dayNumber)
    (hrecent : now.date.dayNumber < d.dayNumber + 365) :
    d.year = now.date.year ∨ d.year + 1 = now.date.year := by
  have hvalid := Date.isValid_iff.mp hd
  have hnow := now.isValid_date
  have hnotLater : d.year ≤ now.date.year := by
    by_contra hlater
    have hbefore := Date.dayNumber_lt_of_year_lt hnow (Nat.lt_of_not_le hlater)
    rw [Date.dayNumber.eq_1 d] at hpast
    omega
  have hnotEarlier : now.date.year ≤ d.year + 1 := by
    by_contra hearlier
    have hbefore := Date.dayNumber_lt_of_year_lt hd (Nat.lt_add_one d.year)
    have hbetween := Date.daysBeforeYear_succ (by omega : 1 ≤ d.year + 1)
    have hlong : 365 ≤ Date.daysInYear (d.year + 1) := by
      unfold Date.daysInYear
      split_ifs <;> omega
    have hafter := Date.daysBeforeYear_le (by omega) (by omega : d.year + 1 + 1 ≤ now.date.year)
    rw [Date.dayNumber.eq_1 now.date] at hrecent
    omega
  omega

/-- A day after any moment before the year 9999 is in the calendar. -/
theorem ticks_add_lt_of_year (h : now.date.year ≤ 9998) : now.ticks + ticksPerDay < calendarTicks := by
  have hbefore := Date.dayNumber_lt_of_year_lt now.isValid_date (by omega : now.date.year < 9999)
  have hdays : Date.daysBeforeYear 9999 + 2 ≤ Date.calendarDays := by decide
  have hmul : (now.date.dayNumber + 2) * ticksPerDay ≤ calendarTicks :=
    Nat.mul_le_mul_right ticksPerDay (by omega)
  have hofDay : now.ofDay < ticksPerDay := Nat.mod_lt now.ticks (by decide)
  rw [Nat.add_mul] at hmul
  rw [Moment.ticks_eq now]
  omega

/-- **A day of the last months is found again.**  Let the moment be midnight of the day, less than 364 days back and no more
than a day ahead.  Then the day without its year names this moment again, unless it is a 29 February or the clock shows
neither its year nor the next.  A clock that shows the day or a later one shows such a year. -/
theorem absolute?_monthDay_iff (hm : IsMidnight d m) (hyear : 2 ≤ now.date.year ∧ now.date.year ≤ 9998)
    (hpast : m.universalTicks ≤ now.universalTicks + ticksPerDay)
    (hrecent : now.universalTicks < m.universalTicks + 364 * ticksPerDay) :
    (absolute? d.monthDay (some "Jan 02") now = .ok (some m) ↔
      ¬ d.IsLeapDay ∧ (d.year = now.date.year ∨ d.year + 1 = now.date.year)) ∧
    (now.offset ≤ ticksPerDay → d.dayNumber ≤ now.date.dayNumber →
      d.year = now.date.year ∨ d.year + 1 = now.date.year) := by
  have hd : d.isValid = true := hm.date ▸ m.isValid_date
  constructor
  · by_cases hleap : d.IsLeapDay
    · rw [absolute?_leapDay hd hleap]
      exact iff_of_false (by simp) fun h => h.1 hleap
    · obtain ⟨here, hhere⟩ := exists_isMidnight (Date.isValid_inYear hd hleap (by omega : 1 ≤ now.date.year ∧ _))
      obtain ⟨before, hbefore⟩ :=
        exists_isMidnight (Date.isValid_inYear hd hleap (by omega : 1 ≤ now.date.year - 1 ∧ _))
      rw [absolute?_monthDay hd hleap hhere hbefore (ticks_add_lt_of_year hyear.2), Except.ok.injEq, Option.some.injEq,
        and_iff_right hleap]
      constructor
      · intro hfound
        split_ifs at hfound
        · have hsame : d.year = now.date.year - 1 := by rw [← hm.date, ← hfound, hbefore.date]
          omega
        · have hsame : d.year = now.date.year := by rw [← hm.date, ← hfound, hhere.date]
          exact .inl hsame
      · intro hturn
        cases hturn with
        | inl hsame =>
            have heq : here = m := hhere.eq (hsame ▸ hm)
            rw [heq, if_neg (by omega)]
        | inr hnext =>
            have heq : before = m := hbefore.eq (by rw [← hnext]; exact hm)
            rw [← hnext] at hhere
            have hlater := hm.add_le hhere
            rw [if_pos (by omega), heq]
  · intro hoffset hday
    exact year_of_recent hd hday (hm.dayNumber_lt hoffset hrecent)

/-- At the end of March 2024, 5 October is that of the year before. -/
theorem absolute?_monthDay_october :
    ∃ m, IsMidnight ⟨2023, 10, 5⟩ m ∧ Date.monthDay ⟨2023, 10, 5⟩ = "Oct 05" ∧
      absolute? "Oct 05" (some "Jan 02") Moment.endOfMarch = .ok (some m) := by
  have hm : IsMidnight ⟨2023, 10, 5⟩ ⟨Moment.epochTicks + 1696464000 * 1000000, 0, by decide⟩ :=
    ⟨by decide, by decide, rfl⟩
  have htext : Date.monthDay ⟨2023, 10, 5⟩ = "Oct 05" := by decide
  have hyear : 2 ≤ Moment.endOfMarch.date.year ∧ Moment.endOfMarch.date.year ≤ 9998 := by decide
  obtain ⟨hfound, hturn⟩ := absolute?_monthDay_iff hm hyear (by decide) (by decide)
  rw [htext] at hfound
  exact ⟨_, hm, htext, hfound.mpr ⟨by decide, hturn (by decide) (by decide)⟩⟩

/-- At the end of March 2024, the 29 February of that year is a month back, and is not found. -/
theorem absolute?_leapDay_lost :
    ∃ m, IsMidnight ⟨2024, 2, 29⟩ m ∧ m.universalTicks ≤ Moment.endOfMarch.universalTicks ∧
      Moment.endOfMarch.universalTicks ≤ m.universalTicks + 300 * ticksPerDay ∧
      Date.monthDay ⟨2024, 2, 29⟩ = "Feb 29" ∧
      absolute? "Feb 29" (some "Jan 02") Moment.endOfMarch = .ok none := by
  have hm : IsMidnight ⟨2024, 2, 29⟩ ⟨Moment.epochTicks + 1709164800 * 1000000, 0, by decide⟩ :=
    ⟨by decide, by decide, rfl⟩
  have htext : Date.monthDay ⟨2024, 2, 29⟩ = "Feb 29" := by decide
  have hlost := absolute?_leapDay (by decide) (⟨rfl, rfl⟩ : Date.IsLeapDay ⟨2024, 2, 29⟩) Moment.endOfMarch
  rw [htext] at hlost
  exact ⟨_, hm, by decide, by decide, htext, hlost⟩

end Calendar

end MetaSearch
