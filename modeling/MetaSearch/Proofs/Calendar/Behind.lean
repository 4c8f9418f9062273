import MetaSearch.Proofs.Calendar.Shown
import MetaSearch.Proofs.Text.Parts

/-!
# Relative phrases do not point ahead

Amounts in a phrase have no sign, so that subtracting them never leads forward.  A moment that a phrase names is therefore
not after the current time, unless the phrase says `today` with a clock time; then it is still on the same day
(`relative?_not_ahead`).
-/

namespace MetaSearch

namespace Binary64

/-- Not a negative number. -/
def IsUnsigned : Binary64 → Prop
  | finite negative _ _ => negative = false
  | infinite negative => negative = false
  | nan => True

theorem isUnsigned_ofRatio (num den : Nat) : (ofRatio false num den).IsUnsigned := by
  unfold ofRatio
  split
  · rfl
  · extract_lets e
    split
    rename_i n d _
    -- the mantissa is left as a name: it would be compared with 2^53 bit by bit
    generalize roundDiv n d = q
    extract_lets q
    generalize (if q = Nat.pow 2 53 then (Nat.pow 2 52, e + 1) else (q, e)) = rounded
    split
    split <;> rfl

theorem isUnsigned_ofDecimal (digits : Nat) (exponent : Int) : (ofDecimal false digits exponent).IsUnsigned := by
  unfold ofDecimal
  dsimp only
  split_ifs
  · exact isUnsigned_ofRatio 0 1
  · rfl
  · exact isUnsigned_ofRatio 0 1
  · exact isUnsigned_ofRatio _ _
  · exact isUnsigned_ofRatio _ _

theorem nonneg_of_truncate? {x : Binary64} (hx : x.IsUnsigned) {n : Int} (h : x.truncate? = some n) : 0 ≤ n := by
  cases x with
  | nan => simp [truncate?] at h
  | infinite negative => simp [truncate?] at h
  | finite negative m e =>
      obtain rfl : negative = false := hx
      obtain rfl : ((ratio m e).1 / (ratio m e).2 : Nat) = n := by simpa [truncate?] using h
      exact Int.natCast_nonneg _

end Binary64

namespace Calendar

/-! ## Amounts -/

theorem isUnsigned_of_amountOf? {s rest : List Char} {amount : Binary64} (h : amountOf? s = some (amount, rest)) :
    amount.IsUnsigned := by
  unfold amountOf? at h
  dsimp only at h
  split_ifs at h
  · obtain ⟨rfl, -⟩ := Prod.mk.inj (Option.some.inj h)
    exact Binary64.isUnsigned_ofDecimal _ _
  · obtain ⟨rfl, -⟩ := Prod.mk.inj (Option.some.inj h)
    exact Binary64.isUnsigned_ofDecimal _ _

theorem isUnsigned_of_partAt? {edge : Bool} {s : List Char} {part : Part} (h : partAt? edge s = some part) :
    part.amount.IsUnsigned := by
  have hone : (Binary64.ofRatio false 1 1).IsUnsigned := Binary64.isUnsigned_ofRatio 1 1
  unfold partAt? at h
  dsimp only at h
  cases hamount : amountOf? s with
  | some found =>
      obtain ⟨amount, rest⟩ := found
      simp only [hamount] at h
      split_ifs at h
      obtain rfl := Option.some.inj h
      exact isUnsigned_of_amountOf? hamount
  | none =>
      simp only [hamount] at h
      split_ifs at h
      split at h
      · split_ifs at h
        obtain rfl := Option.some.inj h
        exact hone
      · split_ifs at h
        obtain rfl := Option.some.inj h
        exact hone
      · simp at h

theorem isUnsigned_of_mem_partsFrom {skip : Nat} {edge : Bool} {s : List Char} {part : Part}
    (h : part ∈ partsFrom skip edge s) : part.amount.IsUnsigned := by
  induction s generalizing skip edge with
  | nil => simp [partsFrom] at h
  | cons c s ih =>
      cases skip with
      | succ skip => exact ih h
      | zero =>
          rw [partsFrom] at h
          cases hpart : partAt? edge (c :: s) with
          | none =>
              rw [hpart] at h
              exact ih h
          | some found =>
              rw [hpart] at h
              cases List.mem_cons.mp h with
              | inl heq =>
                  rw [heq]
                  exact isUnsigned_of_partAt? hpart
              | inr hlater => exact ih hlater

/-! ## Steps back -/

theorem ticks_le_of_subtract {m u : Moment} {amount : Binary64} {unit : TimeUnit} (hamount : amount.IsUnsigned)
    (h : subtract m amount unit = .ok u) : u.ticks ≤ m.ticks := by
  unfold subtract at h
  split at h
  · split at h
    · have hmoved := Moment.ticks_of_shift h
      omega
    · simp at h
  · rename_i months _
    split at h
    · rename_i n hn
      have hnonneg := Int.mul_nonneg (Binary64.nonneg_of_truncate? hamount hn) (Int.natCast_nonneg months)
      exact Moment.ticks_le_of_shiftMonths (by omega) h
    · simp at h

theorem ticks_le_of_subtractWhole {m u : Moment} {amount : Nat} {unit : TimeUnit}
    (h : subtractWhole m amount unit = .ok u) : u.ticks ≤ m.ticks := by
  unfold subtractWhole at h
  split at h
  · have hmoved := Moment.ticks_of_shift h
    omega
  · exact Moment.ticks_le_of_shiftMonths (by omega) h

/-- Any number of steps back does not lead forward. -/
theorem ticks_le_of_subtractParts {m u : Moment} {parts : List Part} {any : Bool}
    (hparts : ∀ part ∈ parts, part.amount.IsUnsigned) (h : subtractParts m parts = .ok (u, any)) :
    u.ticks ≤ m.ticks := by
  induction parts generalizing m any with
  | nil =>
      obtain ⟨rfl, -⟩ := Prod.mk.inj (Except.ok.inj h)
      exact Nat.le_refl _
  | cons part rest ih =>
      obtain ⟨hpart, hrest⟩ := List.forall_mem_cons.mp hparts
      rw [subtractParts] at h
      cases hunit : unit? part.word with
      | none =>
          rw [hunit] at h
          exact ih hrest h
      | some unit =>
          rw [hunit] at h
          obtain ⟨earlier, hstep, h⟩ := exists_of_bind_eq_ok h
          obtain ⟨⟨last, known⟩, hlater, h⟩ := exists_of_bind_eq_ok h
          obtain ⟨rfl, -⟩ := Prod.mk.inj (Except.ok.inj h)
          exact Nat.le_trans (ih hrest hlater) (ticks_le_of_subtract hpart hstep)

/-! ## Clock times -/

/-- A clock time follows: perhaps marks, perhaps the word `at`, one or two digits for the hour, a colon and two digits. -/
def ClockFollows (s : List Char) : Prop :=
  ∃ marks word hour minute rest, s = marks ++ (word ++ (hour ++ ':' :: (minute ++ rest))) ∧
    (∀ c ∈ marks, Text.isWordChar c = false) ∧
    (word = [] ∨ ∃ blanks, word = 'a' :: 't' :: blanks ∧ ∀ c ∈ blanks, Text.isBlank c = true) ∧
    (∀ c ∈ hour ++ minute, Text.isDecimal c = true) ∧ (hour.length = 1 ∨ hour.length = 2) ∧ minute.length = 2

/-- A phrase says `today` with a clock time. -/
def SaysTodayAt (phrase : String) : Prop :=
  ∃ front rest, phrase.toList = front ++ ("today".toList ++ rest) ∧ ClockFollows rest

/-- What follows the word `at` and blanks, where a text begins with them. -/
def afterAt : List Char → List Char
  | 'a' :: 't' :: rest => rest.dropWhile Text.isBlank
  | s => s

/-- The hour and the minute at the front of a text. -/
def hourMinute? (s : List Char) : Option (Nat × Nat) :=
  let (hour, rest) := digitsOf s
  if hour.isEmpty || 2 < hour.length then none
  else
    match rest with
    | ':' :: a :: b :: _ =>
      match Text.decimalValue? a, Text.decimalValue? b with
      | some x, some y => some (digitsValue hour, 10 * x + y)
      | _, _ => none
    | _ => none

theorem clockTime?_eq (s : List Char) : clockTime? s = hourMinute? (afterAt (s.dropWhile (!Text.isWordChar ·))) :=
  rfl

theorem exists_afterAt_eq (s : List Char) : ∃ word, s = word ++ afterAt s ∧
    (word = [] ∨ ∃ blanks, word = 'a' :: 't' :: blanks ∧ ∀ c ∈ blanks, Text.isBlank c = true) := by
  unfold afterAt
  split
  · rename_i rest
    refine ⟨'a' :: 't' :: rest.takeWhile Text.isBlank, ?_, .inr ⟨_, rfl, fun c hc => Text.of_mem_takeWhile hc⟩⟩
    rw [List.cons_append, List.cons_append, List.takeWhile_append_dropWhile]
  · exact ⟨[], rfl, .inl rfl⟩

/-- An hour and a minute are digits with a colon between them. -/
theorem exists_hourMinute?_eq {s : List Char} {time : Nat × Nat} (h : hourMinute? s = some time) :
    ∃ hour minute rest, s = hour ++ ':' :: (minute ++ rest) ∧ (∀ c ∈ hour ++ minute, Text.isDecimal c = true) ∧
      (hour.length = 1 ∨ hour.length = 2) ∧ minute.length = 2 := by
  have hsplit := List.takeWhile_append_dropWhile (p := Text.isDecimal) (l := s)
  unfold hourMinute? digitsOf at h
  dsimp only at h
  split_ifs at h with hlength
  split at h
  · rename_i a b rest hrest
    split at h
    · rename_i x y ha hb
      refine ⟨s.takeWhile Text.isDecimal, [a, b], rest, ?_, ?_, ?_, rfl⟩
      · rw [List.cons_append, List.cons_append, List.nil_append, ← hrest, hsplit]
      · intro c hc
        cases List.mem_append.mp hc with
        | inl hhour => exact Text.of_mem_takeWhile hhour
        | inr hminute =>
            have hpair : c = a ∨ c = b := by simpa using hminute
            unfold Text.isDecimal
            cases hpair with
            | inl heq => rw [heq, ha]; rfl
            | inr heq => rw [heq, hb]; rfl
      · simp only [Bool.or_eq_true, decide_eq_true_eq, not_or, List.isEmpty_iff] at hlength
        have hpos := List.length_pos_iff.mpr hlength.1
        omega
    · simp at h
  · simp at h

theorem clockFollows_of_clockTime? {s : List Char} {time : Nat × Nat} (h : clockTime? s = some time) :
    ClockFollows s := by
  rw [clockTime?_eq] at h
  obtain ⟨hour, minute, rest, hahead, hdigits, hhour, hminute⟩ := exists_hourMinute?_eq h
  obtain ⟨word, hword, hat⟩ := exists_afterAt_eq (s.dropWhile (!Text.isWordChar ·))
  refine ⟨s.takeWhile (!Text.isWordChar ·), word, hour, minute, rest, ?_, ?_, hat, hdigits, hhour, hminute⟩
  · rw [← hahead, ← hword, List.takeWhile_append_dropWhile]
  · intro c hc
    simpa using Text.of_mem_takeWhile hc

/-- A day with a clock time is `today`, or the day before. -/
theorem exists_today_of_dayTime? {s : List Char} {hour minute : Nat} (h : dayTime? s = some (0, hour, minute)) :
    ∃ front rest, s = front ++ ("today".toList ++ rest) ∧ ClockFollows rest := by
  induction s with
  | nil => simp [dayTime?] at h
  | cons c s ih =>
      rw [dayTime?] at h
      split at h
      · rename_i found hfound
        obtain rfl := Option.some.inj h
        obtain ⟨⟨back, rest⟩, hhere, htime⟩ := Option.bind_eq_some_iff.mp hfound
        obtain ⟨time, hclock, heq⟩ := Option.map_eq_some_iff.mp htime
        obtain ⟨rfl, rfl⟩ := Prod.mk.inj heq
        split at hhere
        · rename_i r hafter
          obtain ⟨-, rfl⟩ := Prod.mk.inj (Option.some.inj hhere)
          have hs := Text.eq_append_of_after? hafter
          exact ⟨[], r, hs, clockFollows_of_clockTime? hclock⟩
        · obtain ⟨r, -, heq⟩ := Option.map_eq_some_iff.mp hhere
          simp at heq
      · obtain ⟨front, rest, hs, hclock⟩ := ih h
        exact ⟨c :: front, rest, by rw [hs, List.cons_append], hclock⟩

theorem SaysTodayAt.contains {phrase : String} (h : SaysTodayAt phrase) : Text.contains phrase "today" = true := by
  obtain ⟨front, rest, hphrase, -⟩ := h
  apply Text.holds_of_isInfix
  exact ⟨front, rest, by rw [hphrase, List.append_assoc]⟩

/-! ## Phrases -/

variable {text : String} {now m : Moment}

/-- What reading a phrase has found in it. -/
def Phrase.FoundIn (phrase : String) : Phrase → Prop
  | .clock back hour minute => dayTime? phrase.toList = some (back, hour, minute)
  | .ago ps => ps = parts phrase
  | _ => True

theorem Phrase.foundIn_of {p : Phrase} (h : Phrase.of text = p) : p.FoundIn (Text.lower (Text.strip text)) := by
  rw [← h]
  unfold Phrase.of
  dsimp only
  generalize Text.lower (Text.strip text) = phrase
  split
  · trivial
  split
  · trivial
  split
  · assumption
  split
  · trivial
  split
  · trivial
  split
  · trivial
  split
  · trivial
  · rfl

/-- A time of day is reckoned from the start of its day. -/
theorem exists_ticks_of_clock {day : Moment} {hour minute : Nat}
    (h : day.shift (((hour % 24 * 60 + minute % 60) * 60000000 : Nat) : Int) = .ok m) :
    ∃ time, time < ticksPerDay ∧ m.ticks = day.ticks + time := by
  have hlength : ticksPerDay = 86400000000 := rfl
  have hmoved := Moment.ticks_of_shift h
  exact ⟨(hour % 24 * 60 + minute % 60) * 60000000, by omega, by omega⟩

/-- A time of day today is on the same day. -/
theorem same_day_of_clock {hour minute : Nat}
    (h : now.midnight.shift (((hour % 24 * 60 + minute % 60) * 60000000 : Nat) : Int) = .ok m) :
    m.ticks / ticksPerDay = now.ticks / ticksPerDay := by
  have hmidnight : now.midnight.ticks = now.ticks - now.ticks % ticksPerDay := rfl
  have hsplit := Nat.div_add_mod' now.ticks ticksPerDay
  obtain ⟨time, htime, hticks⟩ := exists_ticks_of_clock h
  have hsame : m.ticks = ticksPerDay * (now.ticks / ticksPerDay) + time := by
    rw [Nat.mul_comm]
    omega
  rw [hsame, Nat.mul_add_div (by decide), Nat.div_eq_of_lt htime, Nat.add_zero]

/-- What a phrase names does not lie ahead, unless it is a time on the same day. -/
theorem Phrase.ticks_le_or_today (h : (Phrase.of text).moment? now = .ok (some m)) :
    m.ticks ≤ now.ticks ∨
      SaysTodayAt (Text.lower (Text.strip text)) ∧ m.ticks / ticksPerDay = now.ticks / ticksPerDay := by
  have hmidnight : now.midnight.ticks = now.ticks - now.ticks % ticksPerDay := rfl
  generalize hphrase : Phrase.of text = p at h
  have hfound := Phrase.foundIn_of hphrase
  cases Phrase.names_of_moment? h with
  | now => exact .inl (Nat.le_refl _)
  | today => exact .inl (by omega)
  | yesterday hday =>
      have hmoved := Moment.ticks_of_shift hday
      exact .inl (by omega)
  | timeToday htime => exact .inr ⟨exists_today_of_dayTime? hfound, same_day_of_clock htime⟩
  | timeBefore hday htime =>
      obtain ⟨time, hshort, hticks⟩ := exists_ticks_of_clock htime
      have hmoved := Moment.ticks_of_shift hday
      exact .inl (by omega)
  | whole hback => exact .inl (ticks_le_of_subtractWhole hback)
  | @ago ps _ hback =>
      have hparts : ps = parts (Text.lower (Text.strip text)) := hfound
      have hunsigned : ∀ part ∈ ps, part.amount.IsUnsigned := by
        intro part hpart
        rw [hparts] at hpart
        exact isUnsigned_of_mem_partsFrom hpart
      exact .inl (ticks_le_of_subtractParts hunsigned hback)

/-- **Relative phrases do not point ahead.**  The moment is read off the clock of the current time.  It is not after that,
unless the phrase says `today` with a clock time; a phrase without the word names no later moment whatever.  In any case
the moment is on no later day. -/
theorem relative?_not_ahead (h : relative? text now = .ok (some m)) :
    m.offset = now.offset ∧
    (¬ SaysTodayAt (Text.lower (Text.strip text)) → m.universalTicks ≤ now.universalTicks) ∧
    (Text.contains (Text.lower (Text.strip text)) "today" = false → m.universalTicks ≤ now.universalTicks) ∧
    m.date.dayNumber ≤ now.date.dayNumber := by
  have hoffset := offset_of_relative? h
  rw [relative?_eq] at h
  have hinstant : m.ticks ≤ now.ticks → m.universalTicks ≤ now.universalTicks := by
    unfold Moment.universalTicks
    omega
  have hbefore := Phrase.ticks_le_or_today h
  refine ⟨hoffset, ?_, ?_, ?_⟩
  · intro hnot
    exact hinstant (hbefore.resolve_right fun htoday => hnot htoday.1)
  · intro hword
    refine hinstant (hbefore.resolve_right fun htoday => ?_)
    exact Bool.false_ne_true (hword.symm.trans htoday.1.contains)
  · unfold Moment.date
    rw [Date.dayNumber_ofDayNumber, Date.dayNumber_ofDayNumber]
    cases hbefore with
    | inl hle => exact Nat.div_le_div_right hle
    | inr htoday => exact Nat.le_of_eq htoday.2

/-- In the afternoon of 31 March, a time late today lies ahead but on the same day; a month and two days ago do not. -/
theorem relative?_not_ahead_march :
    (∃ m, relative? "Today at 23:59" Moment.endOfMarch = .ok (some m) ∧
      Moment.endOfMarch.universalTicks < m.universalTicks ∧
      m.date.dayNumber ≤ Moment.endOfMarch.date.dayNumber) ∧
    ∃ m, relative? "1 Month, 2d ago" Moment.endOfMarch = .ok (some m) ∧
      m.universalTicks ≤ Moment.endOfMarch.universalTicks := by
  have hlate : relative? "Today at 23:59" Moment.endOfMarch =
      .ok (some ⟨Moment.epochTicks + 1711929540 * 1000000, 0, by decide⟩) := by decide +kernel
  have hearlier : relative? "1 Month, 2d ago" Moment.endOfMarch =
      .ok (some ⟨Moment.epochTicks + 1709048700 * 1000000, 0, by decide⟩) := by decide +kernel
  have hword : Text.contains (Text.lower (Text.strip "1 Month, 2d ago")) "today" = false := by decide +kernel
  obtain ⟨-, -, -, hday⟩ := relative?_not_ahead hlate
  obtain ⟨-, -, hbefore, -⟩ := relative?_not_ahead hearlier
  exact ⟨⟨_, hlate, by decide, hday⟩, _, hearlier, hbefore hword⟩

end Calendar

end MetaSearch
