import MetaSearch.Filter.Chain
import MetaSearch.Proofs.Calendar.Phrase
import MetaSearch.Proofs.Calendar.Stamp

/-!
# Date filters

A date filter makes a timestamp of a text, or nothing where the text names no moment.  A chain, however, leaves a value as
it is when a filter faults, so what is left of a text that a date filter cannot deal with is the text itself.
`applyFilters_date_iff` says when that happens: when a date lies outside the calendar or is counted with too many digits
(`Phrase.Reaches`, `Named`), and when a layout names a field twice.
-/

namespace MetaSearch

namespace Calendar

/-! ## Layouts -/

/-- A text is read by a layout that names no field twice, and what it names lies in the calendar: the date itself, or the
most recent one that a date without a year can mean. -/
structure NamedBy (layout text : String) (now : Moment) : Prop where
  distinct : Layout.repeats (Layout.pieces layout) = false
  dated : ∀ r, Layout.reading? (Layout.pieces layout) text = .ok (some r) →
    Layout.namesYear (Layout.pieces layout) = true → r.InRange
  recent : ∀ r, Layout.reading? (Layout.pieces layout) text = .ok (some r) →
    Layout.namesYear (Layout.pieces layout) = false → (mostRecent r now).isOk = true

theorem byLayout?_isOk_iff {layout text : String} {now : Moment} :
    (byLayout? layout text now).isOk = true ↔ NamedBy layout text now := by
  rw [byLayout?]
  by_cases hrepeats : Layout.repeats (Layout.pieces layout) = true
  · have hread : Layout.reading? (Layout.pieces layout) text = .error .repeatedField := by
      rw [Layout.reading?, if_pos hrepeats]
    rw [hread]
    exact iff_of_false Bool.false_ne_true fun h => Bool.false_ne_true (h.distinct.symm.trans hrepeats)
  · have hdistinct : Layout.repeats (Layout.pieces layout) = false := by simpa using hrepeats
    obtain ⟨found, hread⟩ : ∃ found, Layout.reading? (Layout.pieces layout) text = .ok found :=
      ⟨_, by rw [Layout.reading?, if_neg hrepeats]⟩
    rw [hread, isOk_ok_bind]
    cases found with
    | none => exact iff_of_true rfl ⟨hdistinct, by simp [hread], by simp [hread]⟩
    | some r =>
        by_cases hyear : Layout.namesYear (Layout.pieces layout) = true
        · simp only [hyear, if_true, isOk_map, Reading.toUniversal, Moment.toUniversal_isOk_iff]
          exact ⟨fun h => ⟨hdistinct, fun r' hr' _ => by
            obtain rfl : r = r' := by simpa [hread] using hr'
            exact h, by simp [hyear]⟩, fun h => h.dated r hread hyear⟩
        · have hnone : Layout.namesYear (Layout.pieces layout) = false := by simpa using hyear
          simp only [hnone, Bool.false_eq_true, if_false, isOk_map]
          exact ⟨fun h => ⟨hdistinct, by simp [hnone], fun r' hr' _ => by
            obtain rfl : r = r' := by simpa [hread] using hr'
            exact h⟩, fun h => h.recent r hread hnone⟩

/-- A text can be read as an absolute date, by a layout where one is given. -/
def Named (text : String) (layout : Option String) (now : Moment) : Prop :=
  match layout with
  | some layout => Text.strip text ≠ "" → NamedBy layout (Text.strip text) now
  | none => Text.strip text ≠ "" → ofEpochText? (Text.strip text) = none → Legible (Text.strip text)

theorem absolute?_isOk_iff_named {text : String} {layout : Option String} {now : Moment} :
    (absolute? text layout now).isOk = true ↔ Named text layout now := by
  cases layout with
  | none => exact absolute?_isOk_iff text now
  | some layout =>
      rw [absolute?, Named, ← byLayout?_isOk_iff]
      by_cases hempty : Text.strip text = ""
      · simp [hempty, Except.toBool]
      · simp [hempty]

theorem inRange_of_mostRecent {r : Reading} {now m : Moment} (h : mostRecent r now = .ok m) : m.InRange := by
  rw [mostRecent] at h
  obtain ⟨thisYear, -, h⟩ := exists_of_bind_eq_ok h
  obtain ⟨here, hhere, h⟩ := exists_of_bind_eq_ok h
  obtain ⟨limit, -, h⟩ := exists_of_bind_eq_ok h
  split_ifs at h
  · obtain ⟨lastYear, -, h⟩ := exists_of_bind_eq_ok h
    exact Moment.inRange_of_toUniversal h
  · obtain rfl := Except.ok.inj h
    exact Moment.inRange_of_toUniversal hhere

/-- A date that is read is one that universal time reaches, whatever it is read by. -/
theorem inRange_of_named {text : String} {layout : Option String} {now m : Moment}
    (h : absolute? text layout now = .ok (some m)) : m.InRange := by
  cases layout with
  | none => exact inRange_of_absolute? h
  | some layout =>
      simp only [absolute?] at h
      split_ifs at h
      · simp at h
      · unfold byLayout? at h
        obtain ⟨found, -, h⟩ := exists_of_bind_eq_ok h
        cases found with
        | none => simp at h
        | some r =>
            simp only at h
            split_ifs at h
            · exact inRange_of_map_toUniversal h
            · obtain ⟨u, hrecent, hu⟩ := exists_of_map_eq_ok h
              obtain rfl := Option.some.inj hu
              exact inRange_of_mostRecent hrecent

end Calendar

/-! ## Filters -/

namespace FilterKind

/-- The filters that read dates. -/
def IsDate (kind : FilterKind) : Prop :=
  kind = .dateParse ∨ kind = .timeAgo ∨ kind = .fuzzyTime

instance : DecidablePred IsDate := fun kind =>
  inferInstanceAs (Decidable (kind = .dateParse ∨ kind = .timeAgo ∨ kind = .fuzzyTime))

/-- The names of the date filters. -/
theorem isDate_ofName {name : String} (h : name ∈ ["dateparse", "timeparse", "timeago", "fuzzytime"]) :
    (ofName name).IsDate := by
  have hnames : ∀ name ∈ ["dateparse", "timeparse", "timeago", "fuzzytime"], (ofName name).IsDate := by decide
  exact hnames name h

/-- A date filter can deal with a text: every reading of it that is tried comes to an end. -/
def CanDate (now : Moment) (call : FilterCall) (text : String) : FilterKind → Prop
  | .dateParse => Calendar.Named text (Filter.layout? call) now
  | .timeAgo =>
    (Calendar.Phrase.of text).Reaches now ∧
      (Calendar.relative? text now = .ok none → Calendar.Named text none now)
  | .fuzzyTime =>
    (Calendar.Phrase.of text).Reaches now ∧
      (Calendar.relative? text now = .ok none → Calendar.Named text (Filter.layout? call) now ∧
        (Calendar.absolute? text (Filter.layout? call) now = .ok none → (Filter.layout? call).isSome = true →
          Calendar.Named text none now))
  | _ => True

end FilterKind

namespace Filter

open Calendar

/-- What can be written is nothing or a timestamp. -/
def IsStamp (v : Datum) : Prop :=
  ∃ t, v = .text t ∧ (t = "" ∨ IsTimestamp t)

theorem isStamp_of_stamped {m : Option Moment} {v : Datum} (h : stamped m = .ok v) : IsStamp v := by
  cases m with
  | none => exact ⟨"", (Except.ok.inj h).symm, .inl rfl⟩
  | some m =>
      obtain ⟨t, htimestamp, ht⟩ := exists_of_map_eq_ok h
      exact ⟨t, ht.symm, .inr (Moment.isTimestamp_of_timestamp htimestamp)⟩

theorem stamped_isOk {m : Option Moment} (h : ∀ u, m = some u → u.InRange) : (stamped m).isOk = true := by
  cases m with
  | none => rfl
  | some m => exact isOk_map.trans (Moment.timestamp_isOk_iff.mpr (h m rfl))

theorem stamped_isOk_of_absolute? {text : String} {layout : Option String} {now : Moment} {m : Option Moment}
    (h : absolute? text layout now = .ok m) : (stamped m).isOk = true :=
  stamped_isOk fun _ hu => inRange_of_named (h.trans (congrArg Except.ok hu))

/-- What is read absolutely can be written. -/
theorem stamped_absolute?_isOk_iff {text : String} {layout : Option String} {now : Moment} :
    (absolute? text layout now >>= stamped).isOk = true ↔ Named text layout now := by
  rw [← absolute?_isOk_iff_named]
  cases habsolute : absolute? text layout now with
  | error f => exact iff_of_false Bool.false_ne_true Bool.false_ne_true
  | ok m =>
      rw [isOk_ok_bind]
      exact iff_of_true (stamped_isOk_of_absolute? habsolute) rfl

variable {now : Moment} {call : FilterCall} {text : String}

/-- A moment named relative to the current time can be written; where none is, the rest decides. -/
theorem relative?_bind_isOk_iff (hnow : now.offset = 0) {next : Option Moment → Except Fault Datum}
    (hnext : ∀ m, next (some m) = stamped (some m)) :
    (relative? text now >>= next).isOk = true ↔
      (Phrase.of text).Reaches now ∧ (relative? text now = .ok none → (next none).isOk = true) := by
  rw [← relative?_isOk_iff]
  cases hrelative : relative? text now with
  | error f => exact iff_of_false Bool.false_ne_true fun h => Bool.false_ne_true h.1
  | ok found =>
      rw [isOk_ok_bind]
      cases found with
      | none => exact ⟨fun h => ⟨rfl, fun _ => h⟩, fun h => h.2 rfl⟩
      | some m =>
          have hm : m.InRange := Moment.inRange_of_offset ((offset_of_relative? hrelative).trans hnow)
          rw [hnext, stamped_isOk fun u hu => Option.some.inj hu ▸ hm]
          exact iff_of_true rfl ⟨rfl, nofun⟩

theorem asText_text (text : String) : (Datum.text text).asText = text := rfl

/-- **When a date filter has a result.** -/
theorem run_isOk_iff {kind : FilterKind} (hkind : kind.IsDate) (hnow : now.offset = 0) :
    (kind.run now call (.text text)).isOk = true ↔ kind.CanDate now call text := by
  rcases hkind with rfl | rfl | rfl
  · rw [FilterKind.run, dateParse, asText_text]
    exact stamped_absolute?_isOk_iff
  · rw [FilterKind.run, timeAgo, asText_text, relative?_bind_isOk_iff hnow]
    · exact and_congr_right fun _ => imp_congr_right fun _ => stamped_absolute?_isOk_iff
    · exact fun m => rfl
  · rw [FilterKind.run, fuzzyTime, asText_text, relative?_bind_isOk_iff hnow]
    · refine and_congr_right fun _ => imp_congr_right fun _ => ?_
      rw [← @absolute?_isOk_iff_named text (layout? call) now]
      cases habsolute : absolute? text (layout? call) now with
      | error f => exact iff_of_false Bool.false_ne_true fun h => Bool.false_ne_true h.1
      | ok found =>
          rw [isOk_ok_bind]
          cases found with
          | some m => exact iff_of_true (stamped_isOk_of_absolute? habsolute) ⟨rfl, nofun⟩
          | none =>
              by_cases hlayout : (layout? call).isSome = true
              · simp only [hlayout, if_true, stamped_absolute?_isOk_iff, forall_const]
                exact ⟨fun h => ⟨rfl, h⟩, fun h => h.2⟩
              · simp only [hlayout, Bool.false_eq_true, if_false]
                exact iff_of_true rfl ⟨rfl, nofun⟩
    · exact fun m => rfl

/-- What a date filter makes of a text is nothing or a timestamp. -/
theorem isStamp_of_run {kind : FilterKind} (hkind : kind.IsDate) {v : Datum}
    (h : kind.run now call (.text text) = .ok v) : IsStamp v := by
  rcases hkind with rfl | rfl | rfl
  · obtain ⟨m, -, hm⟩ := exists_of_bind_eq_ok h
    exact isStamp_of_stamped hm
  · obtain ⟨m, -, hm⟩ := exists_of_bind_eq_ok h
    cases m with
    | some m => exact isStamp_of_stamped hm
    | none =>
        obtain ⟨m, -, hm⟩ := exists_of_bind_eq_ok hm
        exact isStamp_of_stamped hm
  · obtain ⟨m, -, hm⟩ := exists_of_bind_eq_ok h
    cases m with
    | some m => exact isStamp_of_stamped hm
    | none =>
        obtain ⟨m, -, hm⟩ := exists_of_bind_eq_ok hm
        cases m with
        | some m => exact isStamp_of_stamped hm
        | none =>
            simp only at hm
            split_ifs at hm
            · obtain ⟨m, -, hm⟩ := exists_of_bind_eq_ok hm
              exact isStamp_of_stamped hm
            · exact isStamp_of_stamped hm

/-- A chain of one call makes what the call makes, and leaves a value that it cannot deal with. -/
theorem applyFilters_singleton (now : Moment) (call : FilterCall) (v : Datum) :
    applyFilters now [call] v = ((FilterKind.ofName call.name).run now call v).toOption.getD v := by
  rw [applyFilters, List.foldl_cons, List.foldl_nil]
  delta FilterCall.apply
  cases (FilterKind.ofName call.name).run now call v with
  | error f => rfl
  | ok w => rfl

/-- **A date filter makes nothing or a timestamp of a text that it can deal with.**  Any other text is left as it is. -/
theorem applyFilters_date_iff (hkind : (FilterKind.ofName call.name).IsDate) (hnow : now.offset = 0) (text : String) :
    (IsStamp (applyFilters now [call] (.text text)) ↔
      (FilterKind.ofName call.name).CanDate now call text ∨ IsStamp (.text text)) ∧
    (¬ (FilterKind.ofName call.name).CanDate now call text → applyFilters now [call] (.text text) = .text text) := by
  rw [← run_isOk_iff hkind hnow, applyFilters_singleton]
  cases hrun : (FilterKind.ofName call.name).run now call (.text text) with
  | error f => exact ⟨⟨.inr, fun h => h.resolve_left Bool.false_ne_true⟩, fun _ => rfl⟩
  | ok v => exact ⟨iff_of_true (isStamp_of_run hkind hrun) (.inl rfl), fun h => absurd rfl h⟩

/-! ## Two phrases -/

/-- Noon on the first of June 2024. -/
def noon : Moment :=
  ⟨Moment.epochTicks + 1717243200 * 1000000, 0, by decide⟩

/-- A call without arguments. -/
def timeAgoCall : FilterCall := ⟨"timeago", []⟩

/-- Three days before are a timestamp. -/
theorem applyFilters_date_three_days :
    (FilterKind.ofName timeAgoCall.name).IsDate ∧ noon.offset = 0 ∧
    (FilterKind.ofName timeAgoCall.name).CanDate noon timeAgoCall "3 days ago" ∧
    IsStamp (applyFilters noon [timeAgoCall] (.text "3 days ago")) := by
  have hkind : (FilterKind.ofName timeAgoCall.name).IsDate := FilterKind.isDate_ofName (by simp [timeAgoCall])
  have hcan : (FilterKind.ofName timeAgoCall.name).CanDate noon timeAgoCall "3 days ago" :=
    (run_isOk_iff hkind rfl).mp (by decide +kernel)
  exact ⟨hkind, rfl, hcan, (applyFilters_date_iff hkind rfl "3 days ago").1.mpr (.inl hcan)⟩

/-- Five thousand years before are outside the calendar, and the phrase is left as it is. -/
theorem applyFilters_five_thousand_years :
    applyFilters noon [timeAgoCall] (.text "5000 years ago") = .text "5000 years ago" ∧
    ¬ IsStamp (.text "5000 years ago") := by
  have hfault : ((FilterKind.ofName timeAgoCall.name).run noon timeAgoCall (.text "5000 years ago")).isOk = false := by
    decide +kernel
  refine ⟨?_, ?_⟩
  · rw [applyFilters_singleton]
    cases hrun : (FilterKind.ofName timeAgoCall.name).run noon timeAgoCall (.text "5000 years ago") with
    | error f => rfl
    | ok v => simp [hrun, Except.isOk, Except.toBool] at hfault
  · rintro ⟨t, ht, hform⟩
    obtain rfl := Datum.text.inj ht
    exact absurd hform (by decide)

end Filter

end MetaSearch
