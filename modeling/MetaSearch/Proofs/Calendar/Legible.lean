import MetaSearch.Calendar.Absolute

/-!
# Dates outside the calendar

A text that names no date is no trouble: it is passed over.  Trouble comes from a text that names a date at the edge of
the calendar, where universal time has left it already, and from numbers in the date of a mail header that no calendar
holds.  `absolute?_isOk_iff` says that these are all, since the common layouts name no offset and no field twice.
-/

namespace MetaSearch

/-- What is made of a result does not change whether there is one. -/
theorem isOk_map {ε α β : Type} {f : α → β} {x : Except ε α} : (f <$> x).isOk = x.isOk := by
  cases x <;> rfl

theorem isOk_ok_bind {ε α β : Type} {a : α} {f : α → Except ε β} :
    ((Except.ok a : Except ε α) >>= f).isOk = (f a).isOk :=
  rfl

theorem isOk_error_bind {ε α β : Type} {e : ε} {f : α → Except ε β} :
    ((Except.error e : Except ε α) >>= f).isOk = false :=
  rfl

/-- What is made of a result is made only where there is one. -/
theorem exists_of_map_eq_ok {ε α β : Type} {f : α → β} {x : Except ε α} {b : β} (h : f <$> x = .ok b) :
    ∃ a, x = .ok a ∧ f a = b := by
  cases x with
  | error e => simp [Functor.map, Except.map] at h
  | ok a => exact ⟨a, rfl, Except.ok.inj h⟩

/-- Universal time is in the calendar when the clock shows this moment. -/
def Moment.InRange (m : Moment) : Prop :=
  0 ≤ m.universalTicks ∧ m.universalTicks < calendarTicks

/-- Universal time is in the calendar when a clock is read so. -/
def Reading.InRange (r : Reading) : Prop :=
  Moment.InRange ⟨r.ticks, r.offset.getD 0, r.inCalendar⟩

/-- A clock of universal time is always in range. -/
theorem Moment.inRange_of_offset {m : Moment} (h : m.offset = 0) : m.InRange := by
  have hticks := m.inCalendar
  simp only [Moment.InRange, Moment.universalTicks, h]
  omega

/-- A clock without an offset is taken for one of universal time. -/
theorem Reading.inRange_of_offset {r : Reading} (h : r.offset = none) : r.InRange :=
  Moment.inRange_of_offset (by rw [h]; rfl)

theorem Moment.offset_of_at? {ticks offset : Int} {m : Moment} (h : Moment.at? ticks offset = some m) :
    m.offset = offset := by
  unfold Moment.at? at h
  split at h
  · exact Option.some.inj h ▸ rfl
  · simp at h

theorem Reading.offset_of_ofDate? {d : Date} {ofDay : Nat} {offset : Option Int} {r : Reading}
    (h : Reading.ofDate? d ofDay offset = some r) : r.offset = offset := by
  unfold Reading.ofDate? Reading.at? at h
  split at h
  · split at h
    · exact Option.some.inj h ▸ rfl
    · simp at h
  · simp at h

/-- A moment has its place on a clock of universal time when that stays in the calendar. -/
theorem Moment.toUniversal_isOk_iff {m : Moment} : m.toUniversal.isOk = true ↔ m.InRange := by
  by_cases hrange : m.InRange
  · have hat : Moment.at? m.universalTicks 0 = some ⟨m.universalTicks.toNat, 0, by
        obtain ⟨hnonneg, hlt⟩ := hrange
        omega⟩ := dif_pos hrange
    simp [Moment.toUniversal, hat, hrange, Except.toBool]
  · have hat : Moment.at? m.universalTicks 0 = none := dif_neg hrange
    simp [Moment.toUniversal, hat, hrange, Except.toBool]

theorem Moment.inRange_of_toUniversal {m u : Moment} (h : m.toUniversal = .ok u) : u.InRange := by
  unfold Moment.toUniversal at h
  split at h
  · rename_i v hv
    obtain rfl := Except.ok.inj h
    exact Moment.inRange_of_offset (Moment.offset_of_at? hv)
  · simp at h

/-- A moment can be written as a timestamp when universal time is in the calendar. -/
theorem Moment.timestamp_isOk_iff {m : Moment} : m.timestamp.isOk = true ↔ m.InRange := by
  rw [← Moment.toUniversal_isOk_iff, Moment.timestamp]
  cases m.toUniversal <;> rfl

/-! ## Common layouts -/

namespace Layout

/-- What is read is read by fields of the layout. -/
theorem field_mem_of_readAll {es : List Element} {s rest : List Char} {fields : List (Field × List Char)}
    (h : readAll es s = some (fields, rest)) : ∀ p ∈ fields, .field p.1 ∈ es := by
  induction es generalizing s rest fields with
  | nil =>
      obtain ⟨rfl, -⟩ : [] = fields ∧ s = rest := by simpa [readAll] using h
      simp
  | cons e es ih =>
      rw [readAll] at h
      obtain ⟨⟨taken, rest'⟩, -, hread⟩ := List.exists_of_findSome?_eq_some h
      obtain ⟨⟨fields', rest''⟩, hrest, hfields⟩ := Option.map_eq_some_iff.mp hread
      intro p hp
      cases e with
      | field f =>
          obtain rfl : (f, taken) :: fields' = fields := (Prod.mk.inj hfields).1
          rcases List.mem_cons.mp hp with rfl | hp
          · exact List.mem_cons_self
          · exact List.mem_cons_of_mem _ (ih hrest p hp)
      | literal c =>
          obtain rfl : fields' = fields := (Prod.mk.inj hfields).1
          exact List.mem_cons_of_mem _ (ih hrest p hp)
      | blanks =>
          obtain rfl : fields' = fields := (Prod.mk.inj hfields).1
          exact List.mem_cons_of_mem _ (ih hrest p hp)

/-- The fields of a layout are those of its pieces. -/
theorem field_mem_of_elements {ps : List Piece} {f : Field} (h : .field f ∈ elements ps) : .field f ∈ ps := by
  induction ps with
  | nil => simp [elements] at h
  | cons p ps ih =>
      cases p with
      | field g =>
          rcases List.mem_cons.mp h with heq | h
          · obtain rfl : f = g := by simpa using heq
            exact List.mem_cons_self
          · exact List.mem_cons_of_mem _ (ih h)
      | literal c =>
          refine List.mem_cons_of_mem _ (ih ?_)
          rw [elements] at h
          split at h
          · split at h
            · rename_i es heq
              rw [heq]
              simpa using h
            · simpa using h
          · simpa using h

/-- Only an offset tells an offset. -/
theorem Reckoning.offset_add {half : Option Nat} {r r' : Reckoning} {p : Field × List Char} (hp : p.1 ≠ .offset)
    (h : r.add half p = some r') : r'.offset = r.offset := by
  obtain ⟨f, s⟩ := p
  cases f with
  | offset => exact absurd rfl hp
  | monthName | shortMonth | weekdayName | shortWeekday =>
      obtain ⟨i, -, rfl⟩ := Option.map_eq_some_iff.mp h
      rfl
  | year | shortYear | month | day | hour | halfDayHour | minute | second | half | zone =>
      obtain rfl := Option.some.inj h
      rfl

theorem Reckoning.offset_foldlM {half : Option Nat} {fields : List (Field × List Char)} {r r' : Reckoning}
    (hfields : ∀ p ∈ fields, p.1 ≠ .offset) (h : fields.foldlM (Reckoning.add half) r = some r') :
    r'.offset = r.offset := by
  induction fields generalizing r with
  | nil => exact Option.some.inj h ▸ rfl
  | cons p fields ih =>
      rw [List.foldlM_cons] at h
      obtain ⟨middle, hadd, hrest⟩ := Option.bind_eq_some_iff.mp h
      rw [ih (fun q hq => hfields q (List.mem_cons_of_mem p hq)) hrest,
        Reckoning.offset_add (hfields p List.mem_cons_self) hadd]

/-- A layout without an offset is read without one. -/
theorem offset_reading? {ps : List Piece} {text : String} {r : Reading} (hps : .field .offset ∉ ps)
    (h : reading? ps text = .ok (some r)) : r.offset = none := by
  unfold reading? at h
  split at h
  · simp at h
  · have hread := Except.ok.inj h
    obtain ⟨⟨fields, rest⟩, hfields, hread⟩ := Option.bind_eq_some_iff.mp hread
    simp only at hread
    split at hread
    · simp at hread
    · obtain ⟨r', hfold, hread⟩ := Option.bind_eq_some_iff.mp hread
      have hoffset : r'.offset = none := by
        refine (Reckoning.offset_foldlM (fun p hp heq => hps ?_) hfold)
        rw [← heq]
        exact field_mem_of_elements (field_mem_of_readAll hfields p hp)
      split at hread
      · simp at hread
      · exact (Reading.offset_of_ofDate? hread).trans hoffset

end Layout

/-- A text is read by the common layouts without trouble. -/
theorem Calendar.byCommonLayout?_isOk (text : String) :
    (byCommonLayout? text commonLayouts).isOk = true := by
  have hlayouts : ∀ layout ∈ commonLayouts, Layout.repeats (Layout.pieces layout) = false ∧
      .field .offset ∉ Layout.pieces layout := by decide +kernel
  generalize commonLayouts = layouts at hlayouts
  induction layouts with
  | nil => rfl
  | cons layout layouts ih =>
      obtain ⟨hrepeats, hoffset⟩ := hlayouts layout List.mem_cons_self
      have hread : ∃ r, Layout.reading? (Layout.pieces layout) text = .ok r := by
        simp [Layout.reading?, hrepeats]
      obtain ⟨r, hr⟩ := hread
      rw [byCommonLayout?, hr]
      cases r with
      | none => exact ih fun l hl => hlayouts l (List.mem_cons_of_mem layout hl)
      | some r =>
          have hrange : r.InRange := Reading.inRange_of_offset (Layout.offset_reading? hoffset hr)
          exact isOk_map.trans (Moment.toUniversal_isOk_iff.mpr hrange)

/-! ## Dates in any form -/

namespace Calendar

/-- A text names no date, or one that universal time reaches: an international date or one of a mail header that stays
in the calendar, the latter with numbers that a calendar can hold. -/
structure Legible (text : String) : Prop where
  iso : ∀ r, Iso.reading? text = some r → r.InRange
  mail : Iso.reading? text = none → ∃ found, Mail.reading? text = .ok found ∧ ∀ r ∈ found, r.InRange

/-- **When a date can be read.**  Seconds since 1970 and the common layouts make no trouble, so that only international
dates and those of mail headers can. -/
theorem absolute?_isOk_iff (text : String) (now : Moment) :
    (absolute? text none now).isOk = true ↔
      (Text.strip text ≠ "" → ofEpochText? (Text.strip text) = none → Legible (Text.strip text)) := by
  simp only [absolute?]
  by_cases hempty : Text.strip text = ""
  · simp [hempty, Except.toBool]
  · have hne : (Text.strip text).isEmpty = false := by simpa using hempty
    simp only [hne, Bool.false_eq_true, if_false, ne_eq, hempty, not_false_eq_true, forall_const]
    cases hepoch : ofEpochText? (Text.strip text) with
    | some m => simp [Except.toBool]
    | none =>
        simp only [forall_const]
        cases hiso : Iso.reading? (Text.strip text) with
        | some r =>
            rw [isOk_map, Reading.toUniversal, Moment.toUniversal_isOk_iff]
            exact ⟨fun h => ⟨fun r' hr' => Option.some.inj (hiso.symm.trans hr') ▸ h, by simp [hiso]⟩,
              fun h => h.iso r hiso⟩
        | none =>
            cases hmail : Mail.reading? (Text.strip text) with
            | error f =>
                refine ⟨nofun, fun h => ?_⟩
                obtain ⟨found, hfound, -⟩ := h.mail hiso
                simp [hmail] at hfound
            | ok found =>
                simp only [bind, Except.bind]
                cases found with
                | some r =>
                    simp only [isOk_map, Reading.toUniversal, Moment.toUniversal_isOk_iff]
                    constructor
                    · intro h
                      exact ⟨by simp [hiso], fun _ => ⟨some r, hmail, fun r' hr' => Option.some.inj hr' ▸ h⟩⟩
                    · intro h
                      obtain ⟨found, hfound, hrange⟩ := h.mail hiso
                      obtain rfl := Except.ok.inj (hmail.symm.trans hfound)
                      exact hrange r rfl
                | none =>
                    simp only [byCommonLayout?_isOk, true_iff]
                    exact ⟨by simp [hiso], fun _ => ⟨none, hmail, by simp⟩⟩

theorem inRange_of_map_toUniversal {r : Reading} {m : Moment} (h : some <$> r.toUniversal = .ok (some m)) :
    m.InRange := by
  cases hr : r.toUniversal with
  | error f => simp [hr, Functor.map, Except.map] at h
  | ok u =>
      obtain rfl : u = m := by simpa [hr, Functor.map, Except.map] using h
      exact Moment.inRange_of_toUniversal hr

theorem inRange_of_byCommonLayout? {text : String} {layouts : List String} {m : Moment}
    (h : byCommonLayout? text layouts = .ok (some m)) : m.InRange := by
  induction layouts with
  | nil => simp [byCommonLayout?] at h
  | cons layout layouts ih =>
      rw [byCommonLayout?] at h
      cases hread : Layout.reading? (Layout.pieces layout) text with
      | error f => simp [hread, bind, Except.bind] at h
      | ok found =>
          simp only [hread, bind, Except.bind] at h
          cases found with
          | some r => exact inRange_of_map_toUniversal h
          | none => exact ih h

/-- A date that is read is one that universal time reaches. -/
theorem inRange_of_absolute? {text : String} {now m : Moment} (h : absolute? text none now = .ok (some m)) :
    m.InRange := by
  simp only [absolute?] at h
  split at h
  · simp at h
  · split at h
    · rename_i u hepoch
      obtain rfl : u = m := by simpa using h
      simp only [ofEpochText?] at hepoch
      split at hepoch
      · exact Moment.inRange_of_offset (Moment.offset_of_at? hepoch)
      · simp at hepoch
    · split at h
      · exact inRange_of_map_toUniversal h
      · rename_i hiso
        cases hmail : Mail.reading? (Text.strip text) with
        | error f => simp [hmail, bind, Except.bind] at h
        | ok found =>
            simp only [hmail, bind, Except.bind] at h
            cases found with
            | some r => exact inRange_of_map_toUniversal h
            | none => exact inRange_of_byCommonLayout? h

end Calendar

end MetaSearch
