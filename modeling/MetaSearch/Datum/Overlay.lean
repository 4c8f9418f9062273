import MetaSearch.Datum.Basic

/-!
# Overlays

A datum laid over another: where both are maps, each entry is laid over the entry of the same key; anywhere else
the upper one hides the lower. `overlay_of_not_map` and `lookup?_overlayEntries_of_absent` state the two halves of
that rule.
-/

namespace MetaSearch.Datum

mutual

/-- A datum laid over another. -/
def overlay (base : Datum) : Datum → Datum
  | map more =>
    match base with
    | map entries => map (overlayEntries entries more)
    | _ => map more
  | upper => upper

/-- Entries of a map laid over others, one after the other. -/
def overlayEntries (entries : List (Datum × Datum)) : List (Datum × Datum) → List (Datum × Datum)
  | [] => entries
  | (key, upper) :: rest =>
    let value := match lookup? key entries with
      | some lower => overlay lower upper
      | none => upper
    overlayEntries (insert key value entries) rest

end

theorem overlay_of_not_map (base : Datum) {upper : Datum} (h : upper.entries? = none) :
    overlay base upper = upper := by
  cases upper <;> simp_all [overlay, entries?]

theorem lookup?_insert_of_ne {s t : String} (h : t ≠ s) (value : Datum) (entries : List (Datum × Datum)) :
    lookup? (text t) (insert (text s) value entries) = lookup? (text t) entries := by
  induction entries with
  | nil => simp [insert, lookup?, sameKey_text, Ne.symm h]
  | cons entry rest ih =>
    obtain ⟨k, v⟩ := entry
    by_cases hs : k.sameKey (text s)
    · have ht : k.sameKey (text t) = false := by
        cases k <;> simp_all [sameKey, wholeNumber?]
        exact fun e => h e.symm
      simp [insert, lookup?, hs, ht]
    · by_cases ht : k.sameKey (text t)
      · simp [insert, lookup?, hs, ht]
      · simpa [insert, lookup?, hs, ht] using ih

/-- A key that the upper entries do not have keeps its value. -/
theorem lookup?_overlayEntries_of_absent {t : String} {upper : List (String × Datum)}
    (h : ∀ entry ∈ upper, entry.1 ≠ t) (entries : List (Datum × Datum)) :
    lookup? (text t) (overlayEntries entries (upper.map fun (s, d) => (text s, d))) = lookup? (text t) entries := by
  induction upper generalizing entries with
  | nil => simp [overlayEntries]
  | cons entry rest ih =>
    obtain ⟨s, d⟩ := entry
    have hs : t ≠ s := fun e => h (s, d) (by simp) e.symm
    rw [List.map_cons, overlayEntries, ih (fun e he => h e (by simp [he])), lookup?_insert_of_ne hs]

end MetaSearch.Datum
