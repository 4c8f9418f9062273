import Mathlib.Data.Bool.AllAny
import Mathlib.Data.List.GetD
import MetaSearch.Calendar.Absolute
import MetaSearch.Proofs.Calendar.Phrase
import MetaSearch.Proofs.Calendar.Shown
import MetaSearch.Proofs.Calendar.Stamp
import MetaSearch.Proofs.Text.Folded

/-!
# Timestamps read again

A timestamp is an international date: its fields are read back as they were written (`Iso.reading?_clockText`), and neither
of the rules that are tried before takes it for a phrase or for seconds.  What is read is the moment that was written, to
the second (`absolute?_timestamp`).
-/

namespace MetaSearch

namespace Iso

/-! ## Fields -/

/-- Digits are read one by one. -/
theorem go_append {s : List Char} (hs : ∀ c ∈ s, c.isDigit = true) (value : Nat) (rest : List Char) :
    digits?.go s.length value (s ++ rest) = some (Nat.ofDigitChars 10 s value, rest) := by
  induction s generalizing value with
  | nil => rfl
  | cons c s ih =>
      obtain ⟨hc, hs⟩ := List.forall_mem_cons.mp hs
      rw [List.length_cons, List.cons_append, digits?.go, if_pos hc, ih hs]
      rfl

/-- **A padded number is read back.** -/
theorem digits?_padded {width n : Nat} (hwidth : 0 < width) (h : n < 10 ^ width) (rest : List Char) :
    digits? width ((Text.padded width n).toList ++ rest) = some (n, rest) := by
  have hdigits : ∀ c ∈ (Text.padded width n).toList, c.isDigit = true := fun c => Text.isDigit_of_mem_padded
  have hread := go_append hdigits 0 rest
  have hvalue : Nat.ofDigitChars 10 (Text.padded width n).toList 0 = n :=
    (Numeral.ofDigits_values hdigits).symm.trans (Text.ofDigits_padded width n)
  rw [Text.length_padded_of_lt hwidth h, hvalue] at hread
  exact hread

/-- A padded number begins with a digit. -/
theorem exists_padded_eq {width n : Nat} (hwidth : 0 < width) (h : n < 10 ^ width) :
    ∃ c s, (Text.padded width n).toList = c :: s ∧ c.isDigit = true := by
  have hlength := Text.length_padded_of_lt hwidth h
  cases hpadded : (Text.padded width n).toList with
  | nil => simp [hpadded] at hlength; omega
  | cons c s =>
      have hmem : c ∈ (Text.padded width n).toList := by
        rw [hpadded]
        exact List.mem_cons_self
      exact ⟨c, s, rfl, Text.isDigit_of_mem_padded hmem⟩

theorem date?_text {d : Date} (hd : d.isValid = true) : date? d.text.toList = some d := by
  have hfields := Date.isValid_iff.mp hd
  have hlast := Date.daysInMonth_le d.year d.month
  obtain ⟨c, s, hmonth, hc⟩ := exists_padded_eq (by decide : 0 < 2) (by omega : d.month < 10 ^ 2)
  have htext : d.text.toList = (Text.padded 4 d.year).toList ++
      '-' :: ((Text.padded 2 d.month).toList ++ '-' :: ((Text.padded 2 d.day).toList ++ [])) := by
    simp [Date.text]
  have hyear := digits?_padded (by decide) (by omega : d.year < 10 ^ 4)
    ('-' :: ((Text.padded 2 d.month).toList ++ '-' :: ((Text.padded 2 d.day).toList ++ [])))
  have hmonthRead := digits?_padded (by decide) (by omega : d.month < 10 ^ 2)
    ('-' :: ((Text.padded 2 d.day).toList ++ []))
  have hday := digits?_padded (by decide) (by omega : d.day < 10 ^ 2) []
  rw [hmonth, List.cons_append] at hmonthRead
  rw [date?, htext, hyear, hmonth, List.cons_append]
  simp only [Option.bind_eq_bind, Option.bind_some, List.head?_cons, BEq.rfl, if_true, List.drop_succ_cons, List.drop_zero]
  split
  · rename_i heq
    obtain ⟨rfl, -⟩ := List.cons.inj heq
    exact absurd hc (by decide)
  · simp only [hmonthRead, hday, Option.bind_some, List.head?_cons, BEq.rfl, if_true, List.drop_succ_cons,
      List.drop_zero, List.isEmpty_nil, hd, Bool.and_self]

/-! ## Times of day -/

/-- A full second of a day in its fields. -/
def timeText (seconds : Nat) : List Char :=
  (Text.padded 2 (seconds / 3600)).toList ++ ':' ::
    ((Text.padded 2 (seconds / 60 % 60)).toList ++ ':' :: (Text.padded 2 (seconds % 60)).toList)

theorem clock?_timeText {seconds : Nat} (h : seconds < 86400) :
    clock? (timeText seconds) = some { hour := seconds / 3600, minute := seconds / 60 % 60, second := seconds % 60 } := by
  have hhour := digits?_padded (by decide) (by omega : seconds / 3600 < 10 ^ 2)
    (':' :: ((Text.padded 2 (seconds / 60 % 60)).toList ++ ':' :: (Text.padded 2 (seconds % 60)).toList))
  have hminute := digits?_padded (by decide) (by omega : seconds / 60 % 60 < 10 ^ 2)
    (':' :: (Text.padded 2 (seconds % 60)).toList)
  have hsecond := digits?_padded (by decide) (by omega : seconds % 60 < 10 ^ 2) []
  obtain ⟨a, minute, hm, -⟩ := exists_padded_eq (by decide : 0 < 2) (by omega : seconds / 60 % 60 < 10 ^ 2)
  obtain ⟨b, second, hs, -⟩ := exists_padded_eq (by decide : 0 < 2) (by omega : seconds % 60 < 10 ^ 2)
  have hpoint : (':' == '.' || ':' == ',') = false := by decide
  -- the minutes and the seconds are there, so that more than a single character follows each colon
  rw [List.append_nil, hs] at hsecond
  rw [hm, hs, List.cons_append] at hminute hhour
  rw [clock?, timeText, hm, hs, List.cons_append, hhour]
  simp only [Option.bind_eq_bind, Option.bind_some, hpoint, Bool.false_eq_true, if_false, BEq.rfl, if_true, hminute,
    hsecond]

/-- Neither a sign nor the letter for universal time is part of a time of day. -/
theorem not_mark_of_mem_timeText {seconds : Nat} {c : Char} (h : c ∈ timeText seconds) :
    (!(c == '+' || c == '-' || c == 'Z')) = true := by
  have hmember : c.isDigit = true ∨ c = ':' := by
    rw [timeText, List.mem_append, List.mem_cons, List.mem_append, List.mem_cons] at h
    rcases h with h | h | h | h | h
    · exact .inl (Text.isDigit_of_mem_padded h)
    · exact .inr h
    · exact .inl (Text.isDigit_of_mem_padded h)
    · exact .inr h
    · exact .inl (Text.isDigit_of_mem_padded h)
  rw [Bool.not_eq_true', ← Bool.not_eq_true, Bool.or_eq_true, Bool.or_eq_true, beq_iff_eq, beq_iff_eq, beq_iff_eq]
  rintro ((rfl | rfl) | rfl) <;> exact absurd hmember (by decide)

theorem time?_timeText {seconds : Nat} (h : seconds < 86400) :
    time? (timeText seconds ++ ['Z']) = some (seconds * 1000000, some 0) := by
  have hmarks : ∀ c ∈ timeText seconds, (!(c == '+' || c == '-' || c == 'Z')) = true :=
    fun c => not_mark_of_mem_timeText
  have hclock : ({ hour := seconds / 3600, minute := seconds / 60 % 60, second := seconds % 60 } : Clock).isTimeOfDay =
      true := by
    simp only [Clock.isTimeOfDay, Bool.and_eq_true, decide_eq_true_eq]
    omega
  have hticks : ({ hour := seconds / 3600, minute := seconds / 60 % 60, second := seconds % 60 } : Clock).ticks =
      seconds * 1000000 := by
    simp only [Clock.ticks]
    omega
  unfold time?
  dsimp only
  have hend : ['Z'].takeWhile (fun c => !(c == '+' || c == '-' || c == 'Z')) = [] := by decide
  have hmark : ['Z'].dropWhile (fun c => !(c == '+' || c == '-' || c == 'Z')) = ['Z'] := by decide
  rw [List.takeWhile_append_of_pos hmarks, List.dropWhile_append_of_pos hmarks, hend, hmark, List.append_nil,
    clock?_timeText h]
  simp only [Option.bind_eq_bind, Option.bind_some, List.isEmpty_nil, hclock, hticks, Bool.and_self, if_true]

/-! ## Timestamps -/

/-- A timestamp is a day and a full second of it. -/
theorem toList_clockText {ticks : Nat} (hfull : ticks % 1000000 = 0) :
    (clockText "T" ticks ++ "Z").toList = (Date.ofDayNumber (ticks / ticksPerDay)).text.toList ++
      'T' :: (timeText (ticks % ticksPerDay / 1000000) ++ ['Z']) := by
  have hmicros : ticks % ticksPerDay % 1000000 = 0 := by
    rw [Nat.mod_mod_of_dvd _ (by decide), hfull]
  simp [clockText, hmicros, timeText]

theorem length_text {d : Date} (hd : d.isValid = true) : d.text.toList.length = 10 := by
  have hfields := Date.isValid_iff.mp hd
  have hlast := Date.daysInMonth_le d.year d.month
  have hyear := Text.length_padded_of_lt (by decide) (by omega : d.year < 10 ^ 4)
  have hmonth := Text.length_padded_of_lt (by decide) (by omega : d.month < 10 ^ 2)
  have hday := Text.length_padded_of_lt (by decide) (by omega : d.day < 10 ^ 2)
  simp only [Date.text, String.toList_append, List.length_append, hyear, hmonth, hday]
  rfl

/-- A hyphen after the year, and no week after that, tell a day in ten characters. -/
theorem dateLength_of_hyphen {s : List Char} (hlength : s.length ≠ 7) (hhyphen : s.getD 4 '\x00' = '-')
    (hweek : s.getD 5 '\x00' ≠ 'W') : dateLength s = some 10 := by
  unfold dateLength
  dsimp only
  rw [if_neg hlength, if_pos hhyphen, if_neg hweek]

theorem dateLength_text {d : Date} (hd : d.isValid = true) (s : List Char) :
    dateLength (d.text.toList ++ 'T' :: s) = some 10 := by
  have hfields := Date.isValid_iff.mp hd
  have hlength := length_text hd
  have hyear := Text.length_padded_of_lt (by decide) (by omega : d.year < 10 ^ 4)
  obtain ⟨c, r, hmonth, hc⟩ := exists_padded_eq (by decide : 0 < 2) (by omega : d.month < 10 ^ 2)
  have htext : d.text.toList ++ 'T' :: s =
      (Text.padded 4 d.year).toList ++ '-' :: c :: (r ++ '-' :: ((Text.padded 2 d.day).toList ++ 'T' :: s)) := by
    simp [Date.text, hmonth]
  apply dateLength_of_hyphen
  · rw [List.length_append, hlength]
    omega
  · rw [htext, List.getD_append_right _ _ _ _ (by omega), hyear]
    rfl
  · rw [htext, List.getD_append_right _ _ _ _ (by omega), hyear]
    rintro rfl
    exact absurd hc (by decide)

/-- **A timestamp is read as it was written.** -/
theorem reading?_clockText {ticks : Nat} (hticks : ticks < calendarTicks) (hfull : ticks % 1000000 = 0) :
    reading? (clockText "T" ticks ++ "Z") =
      Reading.ofDate? (Date.ofDayNumber (ticks / ticksPerDay)) (ticks % ticksPerDay) (some 0) := by
  have hday : ticks / ticksPerDay < Date.calendarDays := Nat.div_lt_of_lt_mul (by rwa [Nat.mul_comm])
  have hvalid := Date.isValid_ofDayNumber hday
  have hlength := length_text hvalid
  have hofDay : ticks % ticksPerDay < 86400000000 := Nat.mod_lt _ (by decide)
  have hmicros : ticks % ticksPerDay % 1000000 = 0 := by
    rw [Nat.mod_mod_of_dvd _ (by decide), hfull]
  have hseconds : ticks % ticksPerDay / 1000000 * 1000000 = ticks % ticksPerDay := by omega
  have htime := time?_timeText (by omega : ticks % ticksPerDay / 1000000 < 86400)
  have htext := toList_clockText hfull
  generalize timeText (ticks % ticksPerDay / 1000000) ++ ['Z'] = time at htext htime
  generalize Date.ofDayNumber (ticks / ticksPerDay) = d at htext hvalid hlength ⊢
  have hfront : (d.text.toList ++ 'T' :: time).take 10 = d.text.toList := by
    rw [← hlength, List.take_left]
  have hback : (d.text.toList ++ 'T' :: time).drop 11 = time := by
    rw [List.drop_append, List.drop_eq_nil_of_le (by omega), hlength, List.nil_append]
    rfl
  have hmore : (d.text.toList ++ 'T' :: time).length = 11 + time.length := by
    rw [List.length_append, hlength, List.length_cons]
    omega
  rw [reading?, htext]
  simp only [hmore, dateLength_text hvalid, Option.bind_eq_bind, Option.bind_some, hfront, date?_text hvalid, hback, htime,
    hseconds]
  rw [if_neg (by omega), if_neg (by omega)]

end Iso

/-! ## Moments -/

namespace Moment

variable {m u : Moment}

/-- The start of the second. -/
def wholeSecond (m : Moment) : Moment :=
  ⟨m.ticks - m.ticks % 1000000, m.offset, Nat.lt_of_le_of_lt (Nat.sub_le ..) m.inCalendar⟩

theorem wholeSecond_ticks_mod (m : Moment) : m.wholeSecond.ticks % 1000000 = 0 := by
  change (m.ticks - m.ticks % 1000000) % 1000000 = 0
  omega

theorem offset_of_toUniversal (h : m.toUniversal = .ok u) : u.offset = 0 := by
  unfold toUniversal at h
  split at h
  · rename_i v hv
    exact Except.ok.inj h ▸ offset_of_at? hv
  · simp at h

/-- A timestamp is the text of a full second of universal time. -/
theorem timestamp_eq (h : m.toUniversal = .ok u) : m.timestamp = .ok (clockText "T" u.wholeSecond.ticks ++ "Z") := by
  rw [timestamp, h]
  rfl

/-- The start of a second is written as any other moment of it. -/
theorem timestamp_wholeSecond (h : m.toUniversal = .ok u) : u.wholeSecond.timestamp = m.timestamp := by
  have huniversal : u.offset = 0 := offset_of_toUniversal h
  have hzone : u.wholeSecond.offset = 0 := huniversal
  have hsame : u.wholeSecond.wholeSecond.ticks = u.wholeSecond.ticks := by
    change u.wholeSecond.ticks - u.wholeSecond.ticks % 1000000 = u.wholeSecond.ticks
    rw [wholeSecond_ticks_mod, Nat.sub_zero]
  rw [timestamp_eq h, timestamp_eq (toUniversal_of_offset hzone), hsame]

end Moment

namespace Calendar

variable {m : Moment} {t : String}

/-- A timestamp consists of digits and its four marks. -/
theorem mem_isTimestamp (h : IsTimestamp t) {c : Char} (hc : c ∈ t.toList) :
    c.isDigit = true ∨ c ∈ ['-', 'T', ':', 'Z'] := by
  have hform : ∀ place ∈ "0000-00-00T00:00:00Z".toList, place = '0' ∨ place ∈ ['-', 'T', ':', 'Z'] :=
    List.all_iff_forall_prop.mp (by decide)
  unfold IsTimestamp at h
  generalize "0000-00-00T00:00:00Z".toList = form at h hform
  generalize t.toList = s at h hc
  induction h with
  | nil => simp at hc
  | cons hfits hrest ih =>
      obtain ⟨hplace, hform⟩ := List.forall_mem_cons.mp hform
      rcases List.mem_cons.mp hc with rfl | hc
      · unfold Fits at hfits
        split_ifs at hfits with hzero
        · exact .inl hfits
        · exact .inr (hfits ▸ hplace.resolve_left hzero)
      · exact ih hform hc

/-- No character of a timestamp is blank, and none becomes a letter of a word about now. -/
theorem plain_of_isTimestamp (h : IsTimestamp t) {c : Char} (hc : c ∈ t.toList) :
    c.toNat < 128 ∧ Text.isBlank c = false ∧ c.toLower ∉ ['a', 'n', '+'] := by
  have hascii : c.toNat < 128 := by
    have hmarks : ∀ c ∈ ['-', 'T', ':', 'Z'], c.toNat < 128 := List.all_iff_forall_prop.mp (by decide)
    rcases mem_isTimestamp h hc with hdigit | hmark
    · exact Nat.lt_of_le_of_lt (Char.isDigit_iff_toNat.mp hdigit).2 (by decide)
    · exact hmarks c hmark
  have hcodes : ∀ n < 128, (Char.ofNat n).isDigit = true ∨ Char.ofNat n ∈ ['-', 'T', ':', 'Z'] →
      Text.isBlank (Char.ofNat n) = false ∧ (Char.ofNat n).toLower ∉ ['a', 'n', '+'] := by
    decide +kernel
  have hcode := hcodes c.toNat hascii
  rw [Char.ofNat_toNat] at hcode
  exact ⟨hascii, hcode (mem_isTimestamp h hc)⟩

theorem strip_of_isTimestamp (h : IsTimestamp t) : Text.strip t = t := by
  apply Text.strip_of_edges
  · intro c hc
    exact (plain_of_isTimestamp h (List.mem_of_mem_head? hc)).2.1
  · intro c hc
    exact (plain_of_isTimestamp h (List.mem_of_getLast? hc)).2.1

/-- A timestamp is no phrase. -/
theorem relative?_of_isTimestamp (h : IsTimestamp t) (now : Moment) : relative? t now = .ok none := by
  have hsmall : ∀ d ∈ (Text.lower (Text.strip t)).toList, d ∉ ['a', 'n', '+'] := by
    intro d hd
    rw [strip_of_isTimestamp h, Text.lower, String.toList_ofList,
      Text.lowerFrom_of_ascii fun c hc => (plain_of_isTimestamp h hc).1] at hd
    obtain ⟨c, hc, rfl⟩ := List.mem_map.mp hd
    exact (plain_of_isTimestamp h hc).2.2
  rw [relative?_eq, Phrase.of_eq_nothing rfl, Phrase.moment?]
  · exact fun hmem => hsmall _ hmem (by decide)
  · exact fun hmem => hsmall _ hmem (by decide)
  · exact fun hmem => hsmall _ hmem (by decide)

/-- Neither is it a number of seconds. -/
theorem ofEpochText?_of_isTimestamp (h : IsTimestamp t) : ofEpochText? t = none := by
  have hlength : t.toList.length = 20 := h.length_eq.symm
  simp [ofEpochText?, hlength]

/-- **Timestamps are read again**, to the second. -/
theorem absolute?_timestamp {u : Moment} (h : m.timestamp = .ok t) (hu : m.toUniversal = .ok u) (now : Moment) :
    absolute? t none now = .ok (some u.wholeSecond) := by
  have hform := Moment.isTimestamp_of_timestamp h
  have ht : clockText "T" u.wholeSecond.ticks ++ "Z" = t := Except.ok.inj ((Moment.timestamp_eq hu).symm.trans h)
  have hoffset : u.offset = 0 := Moment.offset_of_toUniversal hu
  have hzone : u.wholeSecond.offset = 0 := hoffset
  obtain ⟨r, hr, -, -, huniversal⟩ := Moment.exists_reading hzone (rfl : (some (0 : Int)).getD 0 = 0)
  have hread : Iso.reading? t = some r := by
    rw [← ht, Iso.reading?_clockText u.wholeSecond.inCalendar u.wholeSecond_ticks_mod]
    exact hr
  have hfilled : t.isEmpty = false := by
    rw [← ht]
    simp
  simp only [absolute?, strip_of_isTimestamp hform, hfilled, Bool.false_eq_true, if_false,
    ofEpochText?_of_isTimestamp hform, hread, huniversal]
  rfl

end Calendar

end MetaSearch
