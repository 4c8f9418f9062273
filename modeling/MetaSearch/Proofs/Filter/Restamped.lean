import MetaSearch.Proofs.Calendar.Restored
import MetaSearch.Proofs.Filter.Dated
import MetaSearch.Release.Row

/-!
# Timestamps on their way to a release

What a date filter writes is kept: a release that is dated by it has the same text for its time of publication, other date
filters leave it as it is, and whoever reads it finds the moment that the filter has found, to the second
(`restores_written`).
-/

namespace MetaSearch

open Calendar

variable {t : String} {m u : Moment}

/-! ## Filters -/

namespace FilterKind

/-- The moment that a date filter finds in a text. -/
def found? (now : Moment) (call : FilterCall) (text : String) : FilterKind → Except Fault (Option Moment)
  | .dateParse => absolute? text (Filter.layout? call) now
  | .timeAgo => do
    match ← relative? text now with
    | some m => .ok (some m)
    | none => absolute? text none now
  | .fuzzyTime => do
    match ← relative? text now with
    | some m => .ok (some m)
    | none =>
      match ← absolute? text (Filter.layout? call) now with
      | some m => .ok (some m)
      | none => if (Filter.layout? call).isSome then absolute? text none now else .ok none
  | _ => .ok none

/-- A date filter finds a moment and writes it. -/
theorem run_eq_found? {kind : FilterKind} (hkind : kind.IsDate) (now : Moment) (call : FilterCall) (v : Datum) :
    kind.run now call v = kind.found? now call v.asText >>= Filter.stamped := by
  rcases hkind with rfl | rfl | rfl
  · rfl
  · rw [run, Filter.timeAgo, found?]
    generalize relative? v.asText now = phrase
    generalize absolute? v.asText none now = date
    rcases phrase with f | _ | m <;> rfl
  · rw [run, Filter.fuzzyTime, found?]
    generalize relative? v.asText now = phrase
    generalize absolute? v.asText none now = date
    generalize absolute? v.asText (Filter.layout? call) now = byLayout
    generalize (Filter.layout? call).isSome = given
    rcases phrase with f | _ | m
    · rfl
    · rcases byLayout with f | _ | m
      · rfl
      · cases given <;> rfl
      · rfl
    · rfl

theorem run_of_found? {kind : FilterKind} (hkind : kind.IsDate) {now : Moment} {call : FilterCall} {v : Datum}
    (hfound : kind.found? now call v.asText = .ok (some m)) (htimestamp : m.timestamp = .ok t) :
    kind.run now call v = .ok (.text t) := by
  have hstamped : Filter.stamped (some m) = Datum.text <$> m.timestamp := rfl
  rw [run_eq_found? hkind, hfound]
  change Filter.stamped (some m) = _
  rw [hstamped, htimestamp]
  rfl

/-- The text that a date filter writes is the timestamp of the moment that it has found. -/
theorem exists_found?_of_run {kind : FilterKind} (hkind : kind.IsDate) {now : Moment} {call : FilterCall} {v : Datum}
    (hrun : kind.run now call v = .ok (.text t)) (ht : t ≠ "") :
    ∃ m, kind.found? now call v.asText = .ok (some m) ∧ m.timestamp = .ok t := by
  rw [run_eq_found? hkind] at hrun
  obtain ⟨found, hfound, hstamped⟩ := exists_of_bind_eq_ok hrun
  cases found with
  | none => exact absurd (Datum.text.inj (Except.ok.inj hstamped)).symm ht
  | some m =>
      obtain ⟨s, htimestamp, hs⟩ := exists_of_map_eq_ok hstamped
      obtain rfl := Datum.text.inj hs
      exact ⟨m, hfound, htimestamp⟩

end FilterKind

/-! ## Releases -/

/-- The time of publication is the timestamp of the date of the row. -/
theorem Row.exists_published {row : Row} {profile : SiteProfile} {now : Moment} {r : Release}
    (h : row.release? profile now = .ok (some r)) :
    ∃ published, publishDate (row.value "date") now = .ok published ∧ published.timestamp = .ok r.published := by
  simp only [release?] at h
  split_ifs at h
  · cases h
  · split at h
    · cases h
    · obtain ⟨size, -, h⟩ := exists_of_bind_eq_ok h
      obtain ⟨seeders, -, h⟩ := exists_of_bind_eq_ok h
      obtain ⟨leechers, -, h⟩ := exists_of_bind_eq_ok h
      obtain ⟨published, hpublished, h⟩ := exists_of_bind_eq_ok h
      obtain ⟨sizeText, -, h⟩ := exists_of_bind_eq_ok h
      obtain ⟨timestamp, htimestamp, h⟩ := exists_of_bind_eq_ok h
      obtain ⟨grabs, -, h⟩ := exists_of_bind_eq_ok h
      obtain ⟨code, -, h⟩ := exists_of_bind_eq_ok h
      obtain rfl := Option.some.inj (Except.ok.inj h)
      exact ⟨published, hpublished, htimestamp⟩

/-! ## What is kept -/

/-- A text stands for a moment wherever it comes to a date: as a date, as the date of a row and of the release that is made
of it, and for date filters, which leave it as it is. -/
structure Restores (t : String) (m : Moment) : Prop where
  absolute : ∀ now, absolute? t none now = .ok (some m)
  publication : ∀ now, publishDate (.text t) now = .ok m
  release : ∀ (row : Row) profile now r, row.value "date" = .text t → row.release? profile now = .ok (some r) →
    r.published = t
  again : ∀ (kind : FilterKind) now call, kind.IsDate → Filter.layout? call = none →
    kind.run now call (.text t) = .ok (.text t)

/-- **A timestamp stands for the moment that it is written for**, to the second. -/
theorem restores_timestamp (h : m.timestamp = .ok t) (hu : m.toUniversal = .ok u) : Restores t u.wholeSecond := by
  have hform := Moment.isTimestamp_of_timestamp h
  have habsolute := absolute?_timestamp h hu
  have hwritten : u.wholeSecond.timestamp = .ok t := (Moment.timestamp_wholeSecond hu).trans h
  have hpublication : ∀ now, publishDate (.text t) now = .ok u.wholeSecond := by
    intro now
    rw [publishDate.eq_def]
    dsimp only
    rw [Filter.asText_text, strip_of_isTimestamp hform, habsolute]
    rfl
  constructor
  case absolute => exact habsolute
  case publication => exact hpublication
  case release =>
    intro row profile now r hdate hrelease
    obtain ⟨published, hpublished, htimestamp⟩ := Row.exists_published hrelease
    rw [hdate, hpublication] at hpublished
    obtain rfl := Except.ok.inj hpublished
    exact Except.ok.inj (htimestamp.symm.trans hwritten)
  case again =>
    intro kind now call hkind hlayout
    have hfound : kind.found? now call (Datum.text t).asText = .ok (some u.wholeSecond) := by
      rw [Filter.asText_text]
      rcases hkind with rfl | rfl | rfl
      · rw [FilterKind.found?, hlayout, habsolute]
      · rw [FilterKind.found?, relative?_of_isTimestamp hform, habsolute]
        rfl
      · rw [FilterKind.found?, relative?_of_isTimestamp hform, hlayout, habsolute]
        rfl
    exact FilterKind.run_of_found? hkind hfound hwritten

/-- **Timestamps survive from the filter to the release.**  Every moment of universal time is restored from its timestamp, to
the second; and so is the moment that a date filter finds, from what it writes. -/
theorem restores_written :
    (∀ m : Moment, m.offset = 0 → ∃ t, m.timestamp = .ok t ∧ Restores t m.wholeSecond) ∧
    ∀ (kind : FilterKind) now call v t, kind.IsDate → kind.run now call v = .ok (.text t) → t ≠ "" →
      ∃ m u, kind.found? now call v.asText = .ok (some m) ∧ m.toUniversal = .ok u ∧ Restores t u.wholeSecond := by
  constructor
  · intro m hzone
    have hu := Moment.toUniversal_of_offset hzone
    exact ⟨_, Moment.timestamp_eq hu, restores_timestamp (Moment.timestamp_eq hu) hu⟩
  · intro kind now call v t hkind hrun ht
    obtain ⟨m, hfound, htimestamp⟩ := FilterKind.exists_found?_of_run hkind hrun ht
    obtain ⟨u, hu, -⟩ := exists_of_map_eq_ok htimestamp
    exact ⟨m, u, hfound, hu, restores_timestamp htimestamp hu⟩

/-- A second and a bit after the calendar has begun, and three days before noon on the first of June 2024. -/
theorem restores_written_three_days :
    Restores "0001-01-01T00:00:01Z" ⟨1000000, 0, by decide⟩ ∧
    ∃ m u, FilterKind.timeAgo.found? Filter.noon Filter.timeAgoCall "3 days ago" = .ok (some m) ∧
      m.toUniversal = .ok u ∧ Restores "2024-05-29T12:00:00Z" u.wholeSecond := by
  obtain ⟨hevery, hfilter⟩ := restores_written
  constructor
  · obtain ⟨t, ht, hrestores⟩ := hevery ⟨1234567, 0, by decide⟩ rfl
    have htext : (⟨1234567, 0, by decide⟩ : Moment).timestamp = .ok "0001-01-01T00:00:01Z" := by decide +kernel
    obtain rfl := Except.ok.inj (htext.symm.trans ht)
    exact hrestores
  · have hfound : FilterKind.timeAgo.found? Filter.noon Filter.timeAgoCall "3 days ago" =
        .ok (some ⟨Moment.epochTicks + 1716984000 * 1000000, 0, by decide⟩) := by decide +kernel
    have htext : (⟨Moment.epochTicks + 1716984000 * 1000000, 0, by decide⟩ : Moment).timestamp =
        .ok "2024-05-29T12:00:00Z" := by decide +kernel
    exact hfilter .timeAgo Filter.noon Filter.timeAgoCall (.text "3 days ago") _ (by decide)
      (FilterKind.run_of_found? (by decide) hfound htext) (by decide)

end MetaSearch
