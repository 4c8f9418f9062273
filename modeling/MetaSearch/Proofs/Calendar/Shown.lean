import MetaSearch.Proofs.Calendar.Day
import MetaSearch.Proofs.Calendar.Phrase

/-!
# What a clock shows

A moment is a day, a time of day and the offset of its clock, and these tell it (`ofDate?_eq_some_iff`).  A clock that is not
off universal time shows the moment itself (`exists_reading`).  Moving a moment by whole months keeps the time of day and
the clock and takes the day of the month as far as the month goes (`shiftMonths_eq_ok_iff`), so that moving back never
leads forward (`ticks_le_of_shiftMonths`).
-/

namespace MetaSearch

namespace Moment

/-- A moment is so many days and a time of day. -/
theorem ticks_eq (m : Moment) : m.ticks = m.date.dayNumber * ticksPerDay + m.ofDay := by
  have hsplit := Nat.div_add_mod' m.ticks ticksPerDay
  unfold date ofDay
  rw [Date.dayNumber_ofDayNumber]
  exact hsplit.symm

/-- A quarter to four in the afternoon of 31 March 2024. -/
def endOfMarch : Moment :=
  ⟨epochTicks + 1711899900 * 1000000, 0, by decide⟩

example : endOfMarch.date = ⟨2024, 3, 31⟩ := by decide

theorem eq_of_ticks_eq {m u : Moment} (hticks : m.ticks = u.ticks) (hoffset : m.offset = u.offset) : m = u := by
  cases m
  cases u
  cases hticks
  cases hoffset
  rfl

/-- A moment is told by its day, its time of day and its clock. -/
theorem eq_of_date_eq {m u : Moment} (hdate : m.date = u.date) (hofDay : m.ofDay = u.ofDay)
    (hoffset : m.offset = u.offset) : m = u := by
  apply eq_of_ticks_eq _ hoffset
  rw [ticks_eq m, ticks_eq u, hdate, hofDay]

/-- The day and the time of day of a number of microseconds. -/
theorem date_and_ofDay {m : Moment} {d : Date} (hd : d.isValid = true) {time : Nat} (htime : time < ticksPerDay)
    (hticks : m.ticks = d.dayNumber * ticksPerDay + time) : m.date = d ∧ m.ofDay = time := by
  have hpos : 0 < ticksPerDay := by decide
  unfold date ofDay
  rw [hticks, Nat.mul_comm, Nat.mul_add_div hpos, Nat.mul_add_mod, Nat.mod_eq_of_lt htime, Nat.div_eq_of_lt htime]
  exact ⟨Date.ofDayNumber_dayNumber hd, rfl⟩

/-- A day of the calendar and a time of day are the moment that shows them. -/
theorem ofDate?_eq_some_iff {d : Date} {time : Nat} {offset : Int} {u : Moment} :
    ofDate? d time offset = some u ↔ u.date = d ∧ u.ofDay = time ∧ u.offset = offset := by
  have hfound : ∀ {v : Moment}, ofDate? d time offset = some v → v.date = d ∧ v.ofDay = time ∧ v.offset = offset := by
    intro v h
    unfold ofDate? at? at h
    split_ifs at h with hvalid hrange
    obtain rfl := Option.some.inj h
    rw [Bool.and_eq_true, decide_eq_true_eq] at hvalid
    obtain ⟨hdate, hofDay⟩ := date_and_ofDay (m := ⟨_, offset, _⟩) hvalid.1 hvalid.2 (Int.toNat_natCast _)
    exact ⟨hdate, hofDay, rfl⟩
  constructor
  · exact hfound
  · rintro ⟨rfl, rfl, rfl⟩
    have hofDay : u.ofDay < ticksPerDay := Nat.mod_lt u.ticks (by decide)
    obtain ⟨v, hv⟩ := Option.isSome_iff_exists.mp (isSome_ofDate? u.isValid_date hofDay u.offset)
    obtain ⟨hdate, hofDay, hoffset⟩ := hfound hv
    rw [hv, eq_of_date_eq hdate hofDay hoffset]

/-- Universal time is its own. -/
theorem toUniversal_of_offset {m : Moment} (h : m.offset = 0) : m.toUniversal = .ok m := by
  have hticks : m.universalTicks = m.ticks := by
    rw [universalTicks, h, Int.sub_zero]
  have hat := ofDate?_eq_some_iff.mpr (⟨rfl, rfl, h⟩ : m.date = m.date ∧ m.ofDay = m.ofDay ∧ m.offset = 0)
  have hofDay : m.ofDay < ticksPerDay := Nat.mod_lt m.ticks (by decide)
  rw [ofDate?, m.isValid_date, decide_eq_true hofDay, Bool.and_self, if_pos rfl, ← ticks_eq] at hat
  rw [toUniversal, hticks, hat]

/-- A moment of universal time is read off a clock that shows its day and its time of day. -/
theorem exists_reading {m : Moment} (hzone : m.offset = 0) {offset : Option Int} (hoffset : offset.getD 0 = 0) :
    ∃ r, Reading.ofDate? m.date m.ofDay offset = some r ∧ r.ticks = m.ticks ∧ r.offset = offset ∧
      r.toUniversal = .ok m := by
  have hofDay : m.ofDay < ticksPerDay := Nat.mod_lt m.ticks (by decide)
  have hrange := m.inCalendar
  refine ⟨⟨m.ticks, offset, hrange⟩, ?_, rfl, rfl, ?_⟩
  · rw [Reading.ofDate?, m.isValid_date, decide_eq_true hofDay, Bool.and_self, if_pos rfl, ← ticks_eq, Reading.at?,
      dif_pos (by omega)]
    rfl
  · have hsame : (⟨m.ticks, offset.getD 0, hrange⟩ : Moment) = m := by
      simp only [hoffset.trans hzone.symm]
    rw [Reading.toUniversal, hsame, toUniversal_of_offset hzone]

end Moment

/-! ## Moving back in the calendar -/

namespace Moment

/-- Moving a moment moves the clock reading and nothing else. -/
theorem shift_eq_ok_iff {m u : Moment} {delta : Int} :
    m.shift delta = .ok u ↔ u.offset = m.offset ∧ (u.ticks : Int) = m.ticks + delta := by
  constructor
  · intro h
    exact ⟨offset_of_shift h, ticks_of_shift h⟩
  · rintro ⟨hoffset, hticks⟩
    have hrange := u.inCalendar
    obtain ⟨v, hv⟩ := exists_of_isOk (shift_isOk_iff.mpr (by omega : 0 ≤ m.ticks + delta ∧ _))
    have hmoved := ticks_of_shift hv
    have hsame : v.ticks = u.ticks := by omega
    rw [hv, eq_of_ticks_eq hsame ((offset_of_shift hv).trans hoffset.symm)]

/-- A moment that cannot be moved so far would leave the calendar. -/
theorem shift_eq_error_iff {m : Moment} {delta : Int} {f : Fault} :
    m.shift delta = .error f ↔ ¬ (0 ≤ m.ticks + delta ∧ m.ticks + delta < calendarTicks) ∧ f = .outsideCalendar := by
  unfold shift at?
  split_ifs with hrange
  · simp [hrange]
  · simp [hrange, eq_comm]

/-- Two steps back are one. -/
theorem shift_bind_shift (m : Moment) (a b : Nat) :
    (m.shift (-(a : Int)) >>= fun earlier => earlier.shift (-(b : Int))) = m.shift (-((a + b : Nat) : Int)) := by
  have hrange := m.inCalendar
  cases hstep : m.shift (-(a : Int)) with
  | error f =>
      obtain ⟨hout, rfl⟩ := shift_eq_error_iff.mp hstep
      exact (shift_eq_error_iff.mpr ⟨by omega, rfl⟩).symm
  | ok earlier =>
      obtain ⟨hoffset, hticks⟩ := shift_eq_ok_iff.mp hstep
      have hearlier := earlier.inCalendar
      change earlier.shift (-(b : Int)) = _
      cases hlater : earlier.shift (-(b : Int)) with
      | error f =>
          obtain ⟨hout, rfl⟩ := shift_eq_error_iff.mp hlater
          exact (shift_eq_error_iff.mpr ⟨by omega, rfl⟩).symm
      | ok u =>
          obtain ⟨hoffset', hticks'⟩ := shift_eq_ok_iff.mp hlater
          exact (shift_eq_ok_iff.mpr ⟨hoffset'.trans hoffset, by omega⟩).symm

/-- The count of months tells the year and the month on the clock. -/
theorem year_eq_and_month_eq {m u : Moment} (h : m.months = u.months) :
    m.date.year = u.date.year ∧ m.date.month = u.date.month := by
  apply Date.year_eq_and_month_eq m.isValid_date u.isValid_date
  unfold months at h
  omega

/-- **Moving by months.**  The month is the one so many months on, the day is the same or the last of that month, and
neither the time of day nor the clock changes. -/
theorem shiftMonths_eq_ok_iff {m u : Moment} {n : Int} :
    m.shiftMonths n = .ok u ↔ u.offset = m.offset ∧ u.ofDay = m.ofDay ∧ u.months = m.months + n ∧
      u.date.day = min m.date.day (Date.daysInMonth u.date.year u.date.month) := by
  have hmoved : ∀ {v : Moment}, m.shiftMonths n = .ok v → v.offset = m.offset ∧ v.ofDay = m.ofDay ∧
      v.months = m.months + n ∧ v.date.day = min m.date.day (Date.daysInMonth v.date.year v.date.month) := by
    intro v h
    have hsum : (m.date.year : Int) * 12 + ((m.date.month : Int) - 1) + n = m.months + n := rfl
    simp only [shiftMonths, hsum] at h
    generalize m.months + n = total at h ⊢
    rw [Int.fdiv_eq_ediv_of_nonneg total (by omega), Int.fmod_eq_emod_of_nonneg total (by omega)] at h
    split_ifs at h with hfar hyear
    cases hdate : ofDate? ⟨(total / 12).toNat, (total % 12).toNat + 1,
        min m.date.day (Date.daysInMonth (total / 12).toNat ((total % 12).toNat + 1))⟩ m.ofDay m.offset with
    | none => simp [hdate] at h
    | some w =>
        obtain rfl : w = v := by simpa [hdate] using h
        obtain ⟨hday, hofDay, hoffset⟩ := ofDate?_eq_some_iff.mp hdate
        refine ⟨hoffset, hofDay, ?_, by rw [hday]⟩
        simp only [months, hday]
        omega
  constructor
  · exact hmoved
  · rintro ⟨hoffset, hofDay, hmonths, hday⟩
    have hfields := Date.isValid_iff.mp u.isValid_date
    have hok : (m.shiftMonths n).isOk = true := by
      rw [shiftMonths_isOk_iff, ← hmonths]
      unfold months
      omega
    obtain ⟨v, hv⟩ := exists_of_isOk hok
    obtain ⟨hoffset', hofDay', hmonths', hday'⟩ := hmoved hv
    obtain ⟨hyear, hmonth⟩ := year_eq_and_month_eq (hmonths'.trans hmonths.symm)
    have hdate : v.date = u.date := by
      apply Date.eq_of_fields_eq hyear hmonth
      rw [hday', hday, hyear, hmonth]
    rw [hv, eq_of_date_eq hdate (hofDay'.trans hofDay.symm) (hoffset'.trans hoffset.symm)]

example : (endOfMarch.shiftMonths (-1)).toOption.map (fun u => (u.date, u.ofDay)) =
    some (⟨2024, 2, 29⟩, endOfMarch.ofDay) := by
  decide +kernel

/-- Moving back by months does not lead forward, whatever the months' lengths. -/
theorem ticks_le_of_shiftMonths {m u : Moment} {n : Int} (hn : n ≤ 0) (h : m.shiftMonths n = .ok u) :
    u.ticks ≤ m.ticks := by
  obtain ⟨-, hofDay, hmonths, hday⟩ := shiftMonths_eq_ok_iff.mp h
  have hdays : u.date.dayNumber ≤ m.date.dayNumber := by
    by_cases hsame : n = 0
    · obtain ⟨hyear, hmonth⟩ := year_eq_and_month_eq (by omega : u.months = m.months)
      unfold Date.dayNumber
      rw [hyear, hmonth]
      omega
    · unfold months at hmonths
      exact Nat.le_of_lt (Date.dayNumber_lt_of_month_lt u.isValid_date m.isValid_date (by omega))
  have hmul := Nat.mul_le_mul_right ticksPerDay hdays
  rw [ticks_eq u, ticks_eq m, hofDay]
  omega

end Moment

end MetaSearch
