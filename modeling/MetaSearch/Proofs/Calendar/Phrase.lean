import MetaSearch.Calendar.Relative
import MetaSearch.Proofs.Calendar.Day
import MetaSearch.Proofs.Calendar.Legible
import MetaSearch.Proofs.Text.Parts

/-!
# Phrases that leave the calendar

A phrase that names a moment relative to the current time is read first (`Phrase.of`) and reckoned then.  Reading it makes
no trouble, but reckoning may: `relative?_isOk_iff` says that it does exactly when a phrase goes back beyond the first day
of the calendar, or counts with a number that has too many digits.  `Phrase.Names` is how a phrase comes to name a moment
where reckoning makes no trouble.

Reading a text as a phrase looks for a few words and marks.  A text without `today` and `yesterday` names no day with a
clock time (`dayTime?_eq_none`), one without a plus sign no amount of the form `2 weeks+` (`plusAmount?_eq_none`), and one
without three characters nothing at all (`Phrase.of_eq_nothing`).
-/

namespace MetaSearch

namespace Moment

/-- The clock shows a day of the calendar. -/
theorem isValid_date (m : Moment) : m.date.isValid = true :=
  Date.isValid_ofDayNumber (Nat.div_lt_of_lt_mul (by rw [Nat.mul_comm]; exact m.inCalendar))

theorem isSome_at?_iff {ticks : Int} (offset : Int) :
    (at? ticks offset).isSome = true ↔ 0 ≤ ticks ∧ ticks < calendarTicks := by
  unfold at?
  split_ifs with h <;> simp [h]

/-- A moment can be moved as long as the clock stays in the calendar. -/
theorem shift_isOk_iff {m : Moment} {delta : Int} :
    (m.shift delta).isOk = true ↔ 0 ≤ m.ticks + delta ∧ m.ticks + delta < calendarTicks := by
  rw [← isSome_at?_iff m.offset, shift]
  cases at? (m.ticks + delta) m.offset <;> simp [Except.toBool]

theorem offset_of_shift {m u : Moment} {delta : Int} (h : m.shift delta = .ok u) : u.offset = m.offset := by
  unfold shift at h
  split at h
  · rename_i v hv
    exact Except.ok.inj h ▸ offset_of_at? hv
  · simp at h

/-- The number of months from the start of a year 0 to the month on the clock. -/
def months (m : Moment) : Int :=
  m.date.year * 12 + ((m.date.month : Int) - 1)

/-- A day of the calendar and a time of day are a moment. -/
theorem isSome_ofDate? {d : Date} {ofDay : Nat} (hd : d.isValid = true) (hofDay : ofDay < ticksPerDay) (offset : Int) :
    (ofDate? d ofDay offset).isSome = true := by
  have hday := Date.dayNumber_lt hd
  have hticks : d.dayNumber * ticksPerDay + ofDay < calendarTicks := by
    have hmul : (d.dayNumber + 1) * ticksPerDay ≤ calendarTicks := Nat.mul_le_mul_right ticksPerDay hday
    rw [Nat.add_mul, Nat.one_mul] at hmul
    omega
  rw [ofDate?, hd, decide_eq_true hofDay, Bool.and_self, if_pos rfl, isSome_at?_iff]
  omega

/-- A moment can be moved by whole months as long as the year stays between 1 and 9999. -/
theorem shiftMonths_isOk_iff {m : Moment} {n : Int} :
    (m.shiftMonths n).isOk = true ↔ 12 ≤ m.months + n ∧ m.months + n < 120000 := by
  have hdate := Date.isValid_iff.mp m.isValid_date
  have hofDay : m.ofDay < ticksPerDay := Nat.mod_lt _ (by decide)
  obtain ⟨total, htotal⟩ : ∃ total, m.months + n = total := ⟨_, rfl⟩
  have hyear : total.fdiv 12 = total / 12 := Int.fdiv_eq_ediv_of_nonneg total (by omega)
  have hmonth : total.fmod 12 = total % 12 := Int.fmod_eq_emod_of_nonneg total (by omega)
  have hsum : (m.date.year : Int) * 12 + ((m.date.month : Int) - 1) + n = total := htotal
  simp only [shiftMonths, hsum, hyear, hmonth, htotal]
  split_ifs with hfar hout
  · exact iff_of_false Bool.false_ne_true (by omega)
  · exact iff_of_false Bool.false_ne_true (by omega)
  · have hpos := Date.daysInMonth_pos (total / 12).toNat ((total % 12).toNat + 1)
    have hvalid : (⟨(total / 12).toNat, (total % 12).toNat + 1,
        min m.date.day (Date.daysInMonth (total / 12).toNat ((total % 12).toNat + 1))⟩ : Date).isValid = true := by
      rw [Date.isValid_iff]
      dsimp only
      omega
    obtain ⟨u, hu⟩ := Option.isSome_iff_exists.mp (isSome_ofDate? hvalid hofDay m.offset)
    rw [hu]
    exact iff_of_true rfl (by omega)

theorem offset_of_shiftMonths {m u : Moment} {n : Int} (h : m.shiftMonths n = .ok u) : u.offset = m.offset := by
  simp only [shiftMonths] at h
  split_ifs at h
  split at h
  · rename_i v hv
    rw [ofDate?] at hv
    split_ifs at hv
    exact Except.ok.inj h ▸ offset_of_at? hv
  · simp at h

theorem ticks_of_shift {m u : Moment} {delta : Int} (h : m.shift delta = .ok u) : (u.ticks : Int) = m.ticks + delta := by
  unfold shift at? at h
  split at h
  · rename_i v hv
    split_ifs at hv with hrange
    obtain rfl := Option.some.inj hv
    obtain rfl := Except.ok.inj h
    exact Int.toNat_of_nonneg hrange.1
  · simp at h

/-- From midnight, a moment can be moved within the day. -/
theorem shift_isOk_of_midnight {m : Moment} (hm : m.ticks % ticksPerDay = 0) {delta : Nat} (h : delta < ticksPerDay) :
    (m.shift (delta : Int)).isOk = true := by
  have hless : m.ticks / ticksPerDay < Date.calendarDays :=
    Nat.div_lt_of_lt_mul (by rw [Nat.mul_comm]; exact m.inCalendar)
  have hmul : (m.ticks / ticksPerDay + 1) * ticksPerDay ≤ calendarTicks := Nat.mul_le_mul_right ticksPerDay hless
  have hsplit := Nat.div_add_mod' m.ticks ticksPerDay
  rw [Nat.add_mul, Nat.one_mul] at hmul
  rw [shift_isOk_iff]
  omega

theorem midnight_ticks_mod (m : Moment) : m.midnight.ticks % ticksPerDay = 0 := by
  have hsplit := Nat.div_add_mod' m.ticks ticksPerDay
  have hday : m.midnight.ticks = m.ticks / ticksPerDay * ticksPerDay := by
    change m.ticks - m.ticks % ticksPerDay = _
    omega
  rw [hday, Nat.mul_mod_left]

/-- The day before is in the calendar, unless the moment is on its first day. -/
theorem shift_yesterday_isOk_iff {m : Moment} :
    (m.midnight.shift (-(ticksPerDay : Int))).isOk = true ↔ ticksPerDay ≤ m.ticks := by
  have hticks := m.inCalendar
  have hday : m.midnight.ticks = m.ticks - m.ticks % ticksPerDay := rfl
  have hfirst : m.ticks < ticksPerDay → m.ticks % ticksPerDay = m.ticks := Nat.mod_eq_of_lt
  have hlater : ticksPerDay ≤ m.ticks → ticksPerDay ≤ m.ticks - m.ticks % ticksPerDay := by
    intro h
    have hpos : 1 ≤ m.ticks / ticksPerDay := (Nat.one_le_div_iff (by decide)).mpr h
    have hmul := Nat.mul_le_mul_right ticksPerDay hpos
    have hsplit := Nat.div_add_mod' m.ticks ticksPerDay
    omega
  rw [shift_isOk_iff]
  omega

end Moment

namespace Calendar

/-! ## Distances -/

/-- A distance back in time: so many microseconds, or so many calendar months. -/
inductive Distance where
  | ticks (n : Nat)
  | months (n : Int)

/-- The calendar goes back that far. -/
def Distance.Reaches (m : Moment) : Distance → Prop
  | .ticks n => n ≤ m.ticks
  | .months n => 12 ≤ m.months - n ∧ m.months - n < 120000

/-- The distance that an amount of a unit stands for; none where the amount is too great for any. -/
def TimeUnit.distance? (unit : TimeUnit) (amount : Binary64) : Option Distance :=
  match unit.length with
  | .inl factor => (ticksOf? factor amount).map .ticks
  | .inr factor => amount.truncate?.map fun n => .months (n * factor)

/-- The distance that a whole amount of a unit stands for. -/
def TimeUnit.wholeDistance (unit : TimeUnit) (amount : Nat) : Distance :=
  match unit.length with
  | .inl factor => .ticks (amount * factor)
  | .inr factor => .months (amount * factor : Nat)

/-- An amount can be subtracted when the calendar goes back that far. -/
theorem subtract_isOk_iff {m : Moment} {amount : Binary64} {unit : TimeUnit} :
    (subtract m amount unit).isOk = true ↔ ∃ d, unit.distance? amount = some d ∧ d.Reaches m := by
  have hticks := m.inCalendar
  rw [subtract, TimeUnit.distance?]
  cases unit.length with
  | inl factor =>
      cases hamount : ticksOf? factor amount with
      | none => simp [Except.toBool, hamount]
      | some n =>
          simp only [Moment.shift_isOk_iff, hamount, Option.map_some, Option.some.injEq, exists_eq_left',
            Distance.Reaches]
          omega
  | inr months =>
      cases hamount : amount.truncate? with
      | none => simp [Except.toBool]
      | some n =>
          simp only [Moment.shiftMonths_isOk_iff, Option.map_some, Option.some.injEq, exists_eq_left',
            Distance.Reaches, ← Int.sub_eq_add_neg]

theorem subtractWhole_isOk_iff {m : Moment} {amount : Nat} {unit : TimeUnit} :
    (subtractWhole m amount unit).isOk = true ↔ (unit.wholeDistance amount).Reaches m := by
  have hticks := m.inCalendar
  rw [subtractWhole, TimeUnit.wholeDistance]
  cases unit.length with
  | inl factor =>
      simp only [Moment.shift_isOk_iff, Distance.Reaches]
      omega
  | inr months => simp only [Moment.shiftMonths_isOk_iff, Distance.Reaches, ← Int.sub_eq_add_neg]

theorem offset_of_subtract {m u : Moment} {amount : Binary64} {unit : TimeUnit} (h : subtract m amount unit = .ok u) :
    u.offset = m.offset := by
  unfold subtract at h
  split at h
  · split at h
    · exact Moment.offset_of_shift h
    · simp at h
  · split at h
    · exact Moment.offset_of_shiftMonths h
    · simp at h

theorem offset_of_subtractWhole {m u : Moment} {amount : Nat} {unit : TimeUnit}
    (h : subtractWhole m amount unit = .ok u) : u.offset = m.offset := by
  unfold subtractWhole at h
  split at h
  · exact Moment.offset_of_shift h
  · exact Moment.offset_of_shiftMonths h

/-- All parts with a known unit can be subtracted one after the other. -/
def PartsReach (m : Moment) : List Part → Prop
  | [] => True
  | part :: rest =>
    match unit? part.word with
    | none => PartsReach m rest
    | some unit => ∃ earlier, subtract m part.amount unit = .ok earlier ∧ PartsReach earlier rest

theorem subtractParts_isOk_iff {m : Moment} {parts : List Part} :
    (subtractParts m parts).isOk = true ↔ PartsReach m parts := by
  induction parts generalizing m with
  | nil => exact iff_of_true rfl trivial
  | cons part rest ih =>
      rw [subtractParts, PartsReach]
      cases unit? part.word with
      | none => exact ih
      | some unit =>
          cases hsubtract : subtract m part.amount unit with
          | error f => simp [bind, Except.bind, Except.toBool, hsubtract]
          | ok earlier =>
              simp only [bind, Except.bind, hsubtract, Except.ok.injEq, exists_eq_left', ← ih]
              cases subtractParts earlier rest <;> rfl

theorem offset_of_subtractParts {m u : Moment} {parts : List Part} {any : Bool}
    (h : subtractParts m parts = .ok (u, any)) : u.offset = m.offset := by
  induction parts generalizing m any with
  | nil =>
      obtain ⟨rfl, -⟩ := Prod.mk.inj (Except.ok.inj h)
      rfl
  | cons part rest ih =>
      rw [subtractParts] at h
      cases hunit : unit? part.word with
      | none => exact ih (by simpa [hunit] using h)
      | some unit =>
          cases hsubtract : subtract m part.amount unit with
          | error f => simp [hunit, hsubtract, bind, Except.bind] at h
          | ok earlier =>
              simp only [hunit, hsubtract, bind, Except.bind] at h
              cases hrest : subtractParts earlier rest with
              | error f => simp [hrest] at h
              | ok result =>
                  obtain ⟨last, known⟩ := result
                  obtain ⟨rfl, -⟩ : last = u ∧ true = any := by simpa [hrest] using h
                  exact (ih hrest).trans (offset_of_subtract hsubtract)

/-! ## Phrases -/

/-- What a phrase says about a moment, relative to the current time. -/
inductive Phrase where
  | nothing
  | now
  | clock (back hour minute : Nat)
  | yesterday
  | today
  | whole (digits : List Char) (unit : TimeUnit)
  | ago (parts : List Part)

/-- What a text says. -/
def Phrase.of (text : String) : Phrase :=
  let phrase := Text.lower (Text.strip text)
  if phrase.isEmpty then .nothing
  else if phrase == "now" || Text.contains phrase "just now" then .now
  else
    match dayTime? phrase.toList with
    | some (back, hour, minute) => .clock back hour minute
    | none =>
      if Text.contains phrase "yesterday" then .yesterday
      else if Text.contains phrase "today" then .today
      else
        match plusAmount? phrase.toList with
        | some (digits, unit) => .whole digits unit
        | none => if !Text.contains phrase "ago" then .nothing else .ago (parts phrase)

/-- The moment that is meant. -/
def Phrase.moment? (now : Moment) : Phrase → Except Fault (Option Moment)
  | .nothing => .ok none
  | .now => .ok (some now)
  | .clock back hour minute => do
    let day ← if back = 0 then .ok now.midnight else now.midnight.shift (-(ticksPerDay : Int))
    some <$> day.shift (((hour % 24 * 60 + minute % 60) * 60000000 : Nat) : Int)
  | .yesterday => some <$> now.midnight.shift (-(ticksPerDay : Int))
  | .today => .ok (some now.midnight)
  | .whole digits unit =>
    if Numeral.maxDigits < digits.length then .error .notANumber
    else some <$> subtractWhole now (digitsValue digits) unit
  | .ago parts => do
    let (result, any) ← subtractParts now parts
    .ok (if any then some result else none)

theorem relative?_eq (text : String) (now : Moment) : relative? text now = (Phrase.of text).moment? now := by
  simp only [relative?, Phrase.of]
  generalize Text.lower (Text.strip text) = phrase
  by_cases hempty : phrase.isEmpty = true
  · rw [if_pos hempty, if_pos hempty, Phrase.moment?]
  · rw [if_neg hempty, if_neg hempty]
    by_cases hnow : (phrase == "now" || Text.contains phrase "just now") = true
    · rw [if_pos hnow, if_pos hnow, Phrase.moment?]
    · rw [if_neg hnow, if_neg hnow]
      cases dayTime? phrase.toList with
      | some found => rfl
      | none =>
          by_cases hyesterday : Text.contains phrase "yesterday" = true
          · rw [if_pos hyesterday, if_pos hyesterday, Phrase.moment?]
          · rw [if_neg hyesterday, if_neg hyesterday]
            by_cases htoday : Text.contains phrase "today" = true
            · rw [if_pos htoday, if_pos htoday, Phrase.moment?]
            · rw [if_neg htoday, if_neg htoday]
              cases plusAmount? phrase.toList with
              | some found => rfl
              | none =>
                  by_cases hago : (!Text.contains phrase "ago") = true
                  · rw [if_pos hago, if_pos hago, Phrase.moment?]
                  · rw [if_neg hago, if_neg hago, Phrase.moment?]

/-- The calendar reaches back to the moment that a phrase names, and the number in the phrase is none of those with too
many digits. -/
def Phrase.Reaches (now : Moment) : Phrase → Prop
  | .nothing | .now | .today => True
  | .clock back _ _ => back ≠ 0 → ticksPerDay ≤ now.ticks
  | .yesterday => ticksPerDay ≤ now.ticks
  | .whole digits unit =>
    digits.length ≤ Numeral.maxDigits ∧ (unit.wholeDistance (digitsValue digits)).Reaches now
  | .ago parts => PartsReach now parts

/-- A time of day can be reckoned on the day that is meant. -/
theorem clock_isOk_iff {now : Moment} {back time : Nat} (htime : time < ticksPerDay) :
    ((if back = 0 then .ok now.midnight else now.midnight.shift (-(ticksPerDay : Int)) : Except Fault Moment) >>=
      fun day => some <$> day.shift (time : Int)).isOk = true ↔ (back ≠ 0 → ticksPerDay ≤ now.ticks) := by
  by_cases hback : back = 0
  · refine iff_of_true ?_ fun hne => absurd hback hne
    rw [if_pos hback, isOk_ok_bind, isOk_map, Moment.shift_isOk_of_midnight now.midnight_ticks_mod htime]
  · rw [if_neg hback, ← Moment.shift_yesterday_isOk_iff]
    simp only [ne_eq, hback, not_false_eq_true, forall_const]
    cases hday : now.midnight.shift (-(ticksPerDay : Int)) with
    | error f =>
        rw [isOk_error_bind]
        exact iff_of_false Bool.false_ne_true Bool.false_ne_true
    | ok day =>
        have hwhole : day.ticks % ticksPerDay = 0 := by
          have hticks := Moment.ticks_of_shift hday
          have hbefore : now.midnight.ticks = day.ticks + ticksPerDay := by omega
          have hmidnight := now.midnight_ticks_mod
          rwa [hbefore, Nat.add_mod_right] at hmidnight
        rw [isOk_ok_bind, isOk_map, Moment.shift_isOk_of_midnight hwhole htime]
        exact iff_of_true rfl rfl

/-- **When a phrase can be reckoned.** -/
theorem Phrase.moment?_isOk_iff {now : Moment} {p : Phrase} : (p.moment? now).isOk = true ↔ p.Reaches now := by
  cases p with
  | nothing | now | today => exact iff_of_true rfl trivial
  | yesterday => rw [Phrase.moment?, Phrase.Reaches, isOk_map, Moment.shift_yesterday_isOk_iff]
  | clock back hour minute =>
      have htime : (hour % 24 * 60 + minute % 60) * 60000000 < ticksPerDay := by
        have hday : ticksPerDay = 86400000000 := rfl
        omega
      rw [Phrase.Reaches, ← clock_isOk_iff htime, Phrase.moment?]
      by_cases hback : back = 0
      · rw [if_pos hback, if_pos hback]
      · rw [if_neg hback, if_neg hback]
  | whole digits unit =>
      rw [Phrase.moment?, Phrase.Reaches]
      by_cases hmany : Numeral.maxDigits < digits.length
      · rw [if_pos hmany]
        exact iff_of_false Bool.false_ne_true (by omega)
      · rw [if_neg hmany, isOk_map, subtractWhole_isOk_iff]
        exact (and_iff_right (by omega)).symm
  | ago parts =>
      rw [Phrase.moment?, Phrase.Reaches, ← subtractParts_isOk_iff]
      cases subtractParts now parts <;> rfl

theorem relative?_isOk_iff {text : String} {now : Moment} :
    (relative? text now).isOk = true ↔ (Phrase.of text).Reaches now := by
  rw [relative?_eq, Phrase.moment?_isOk_iff]

/-- How a phrase comes to name a moment. -/
inductive Phrase.Names (now : Moment) : Phrase → Moment → Prop where
  | now : Names now .now now
  | today : Names now .today now.midnight
  | yesterday {m : Moment} (hday : now.midnight.shift (-(ticksPerDay : Int)) = .ok m) : Names now .yesterday m
  | timeToday {hour minute : Nat} {m : Moment}
      (htime : now.midnight.shift (((hour % 24 * 60 + minute % 60) * 60000000 : Nat) : Int) = .ok m) :
      Names now (.clock 0 hour minute) m
  | timeBefore {back hour minute : Nat} {day m : Moment} (hday : now.midnight.shift (-(ticksPerDay : Int)) = .ok day)
      (htime : day.shift (((hour % 24 * 60 + minute % 60) * 60000000 : Nat) : Int) = .ok m) :
      Names now (.clock back hour minute) m
  | whole {digits : List Char} {unit : TimeUnit} {m : Moment}
      (hback : subtractWhole now (digitsValue digits) unit = .ok m) : Names now (.whole digits unit) m
  | ago {parts : List Part} {m : Moment} (hback : subtractParts now parts = .ok (m, true)) : Names now (.ago parts) m

/-- A moment that is named is named in one of these ways. -/
theorem Phrase.names_of_moment? {now m : Moment} {p : Phrase} (h : p.moment? now = .ok (some m)) : p.Names now m := by
  cases p with
  | nothing => cases Except.ok.inj h
  | now =>
      obtain rfl := Option.some.inj (Except.ok.inj h)
      exact .now
  | today =>
      obtain rfl := Option.some.inj (Except.ok.inj h)
      exact .today
  | yesterday =>
      obtain ⟨u, hday, hu⟩ := exists_of_map_eq_ok h
      obtain rfl := Option.some.inj hu
      exact .yesterday hday
  | clock back hour minute =>
      rw [Phrase.moment?] at h
      split_ifs at h with hback
      · obtain ⟨day, hday, h⟩ := exists_of_bind_eq_ok h
        obtain ⟨u, htime, hu⟩ := exists_of_map_eq_ok h
        obtain rfl := Except.ok.inj hday
        obtain rfl := Option.some.inj hu
        rw [hback]
        exact .timeToday htime
      · obtain ⟨day, hday, h⟩ := exists_of_bind_eq_ok h
        obtain ⟨u, htime, hu⟩ := exists_of_map_eq_ok h
        obtain rfl := Option.some.inj hu
        exact .timeBefore hday htime
  | whole digits unit =>
      rw [Phrase.moment?] at h
      split_ifs at h
      obtain ⟨u, hback, hu⟩ := exists_of_map_eq_ok h
      obtain rfl := Option.some.inj hu
      exact .whole hback
  | ago parts =>
      obtain ⟨⟨u, any⟩, hback, hu⟩ := exists_of_bind_eq_ok h
      cases any with
      | true =>
          obtain rfl := Option.some.inj (Except.ok.inj hu)
          exact .ago hback
      | false => cases Except.ok.inj hu

/-- The moment that is meant is read off the same clock. -/
theorem Phrase.Names.offset_eq {now m : Moment} {p : Phrase} (h : p.Names now m) : m.offset = now.offset := by
  have hmidnight : now.midnight.offset = now.offset := rfl
  cases h with
  | now => rfl
  | today => exact hmidnight
  | yesterday hday => exact (Moment.offset_of_shift hday).trans hmidnight
  | timeToday htime => exact (Moment.offset_of_shift htime).trans hmidnight
  | timeBefore hday htime =>
      exact (Moment.offset_of_shift htime).trans ((Moment.offset_of_shift hday).trans hmidnight)
  | whole hback => exact offset_of_subtractWhole hback
  | ago hback => exact offset_of_subtractParts hback

theorem offset_of_relative? {text : String} {now m : Moment} (h : relative? text now = .ok (some m)) :
    m.offset = now.offset := by
  rw [relative?_eq] at h
  exact (Phrase.names_of_moment? h).offset_eq

/-! ## What a text does not say -/

theorem dayTime?_eq_none {s : List Char} (htoday : ¬ "today".toList <:+: s) (hyesterday : ¬ "yesterday".toList <:+: s) :
    dayTime? s = none := by
  induction s with
  | nil => rfl
  | cons c s ih =>
      have hhere : ∀ {word : List Char}, ¬ word <:+: c :: s → Text.after? word (c :: s) = none := by
        intro word hword
        cases hafter : Text.after? word (c :: s) with
        | none => rfl
        | some rest => exact absurd ⟨[], rest, by rw [Text.eq_append_of_after? hafter]; simp⟩ hword
      rw [dayTime?, hhere htoday, hhere hyesterday]
      exact ih (fun h => htoday (List.infix_cons h)) (fun h => hyesterday (List.infix_cons h))

theorem plusUnit?_eq_none {s : List Char} (h : '+' ∉ s) : plusUnit? s = none := by
  rw [plusUnit?, List.findSome?_eq_none_iff]
  rintro ⟨word, unit⟩ -
  dsimp only
  cases hafter : Text.after? word.toList (s.dropWhile Text.isBlank) with
  | none => rfl
  | some rest =>
      have hrest : '+' ∉ rest := by
        intro hmem
        apply h
        apply (List.dropWhile_suffix Text.isBlank).subset
        rw [Text.eq_append_of_after? hafter]
        exact List.mem_append_right _ hmem
      rw [Option.bind_some]
      split
      · exact absurd List.mem_cons_self hrest
      · exact absurd (List.mem_cons_of_mem _ List.mem_cons_self) hrest
      · rfl

theorem plusAmount?_eq_none {s : List Char} (h : '+' ∉ s) : plusAmount? s = none := by
  induction s with
  | nil => rfl
  | cons c s ih =>
      have hrest : '+' ∉ (digitsOf (c :: s)).2 := fun hmem =>
        h ((List.dropWhile_suffix Text.isDecimal).subset hmem)
      rw [plusAmount?]
      simp only [plusUnit?_eq_none hrest, Option.map_none, ite_self]
      exact ih fun hmem => h (List.mem_cons_of_mem c hmem)

/-- Every phrase has an `a`, an `n` or a plus sign in it. -/
theorem Phrase.of_eq_nothing {text phrase : String} (hphrase : Text.lower (Text.strip text) = phrase)
    (ha : 'a' ∉ phrase.toList) (hn : 'n' ∉ phrase.toList) (hplus : '+' ∉ phrase.toList) : Phrase.of text = .nothing := by
  have hword : ∀ word : List Char, 'a' ∈ word ∨ 'n' ∈ word → ¬ word <:+: phrase.toList := by
    intro word hmem hfound
    cases hmem with
    | inl hmem => exact ha (hfound.subset hmem)
    | inr hmem => exact hn (hfound.subset hmem)
  have hcontains : ∀ word : String, 'a' ∈ word.toList ∨ 'n' ∈ word.toList → Text.contains phrase word = false := by
    intro word hmem
    rw [← Bool.not_eq_true, Text.contains, Text.holds_iff_isInfix]
    exact hword word.toList hmem
  have hnow : (phrase == "now") = false := by
    rw [beq_eq_false_iff_ne]
    rintro rfl
    exact hn (by decide)
  have hday := dayTime?_eq_none (hword "today".toList (by decide)) (hword "yesterday".toList (by decide))
  simp only [Phrase.of, hphrase, hnow, hday, plusAmount?_eq_none hplus, hcontains "just now" (by decide),
    hcontains "yesterday" (by decide), hcontains "today" (by decide), hcontains "ago" (by decide), Bool.or_self,
    Bool.not_false, Bool.false_eq_true, if_false, if_true, ite_self]

end Calendar

end MetaSearch
