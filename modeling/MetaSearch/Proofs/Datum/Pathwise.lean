import Mathlib.Data.List.Basic
import MetaSearch.Datum.Overlay
import MetaSearch.Proofs.Datum.Keyed

/-!
# Overlays, path by path

A path of keys leads into a map and on into the maps inside of it.  A datum says something at a path, is silent there, or
hides what could lie there: where something else than a map stands on the way, nothing lies behind it (`Saying`).

* `lookup?_overlayEntries` is one key of a map laid over another.
* `valueAt?_overlay` is a whole path: what the upper datum says counts, and only where it is silent the lower one is asked.
* `sayingOf_eq_hidden_iff` says what hides a path.
-/

namespace MetaSearch.Datum

/-! ## One key -/

/-- What is put last under a key does not depend on what was there. -/
theorem overlayEntries_cons (entries : List (Datum × Datum)) (k upper : Datum) (rest : List (Datum × Datum)) :
    overlayEntries entries ((k, upper) :: rest) =
      overlayEntries (insert k (match lookup? k entries with
        | some lower => overlay lower upper
        | none => upper) entries) rest :=
  overlayEntries.eq_2 entries k upper rest

/-- **One key of a map laid over another.** -/
theorem lookup?_overlayEntries {upper : List (Datum × Datum)} (h : Distinct upper) (lower : List (Datum × Datum))
    (key : Datum) :
    lookup? key (overlayEntries lower upper) =
      match lookup? key upper, lookup? key lower with
      | some u, some l => some (overlay l u)
      | some u, none => some u
      | none, l => l := by
  induction upper generalizing lower with
  | nil => rfl
  | cons entry rest ih =>
      obtain ⟨k, u⟩ := entry
      obtain ⟨hfirst, hrest⟩ := List.pairwise_cons.mp h
      rw [overlayEntries_cons, ih hrest, lookup?_insert, lookup?_cons]
      cases hk : k.sameKey key with
      | false => rfl
      | true =>
          have hnone : lookup? key rest = none := by
            rw [← lookup?_congr hk, lookup?, List.find?_eq_none.mpr fun entry hentry => ?_]
            · rfl
            · rw [sameKey_comm, hfirst entry hentry]
              exact Bool.false_ne_true
          rw [hnone, lookup?_congr hk]
          cases lookup? key lower <;> rfl

/-- A key is in a map laid over another where it is in either. -/
theorem isSome_lookup?_overlayEntries {upper : List (Datum × Datum)} (h : Distinct upper) (lower : List (Datum × Datum))
    (key : Datum) :
    (lookup? key (overlayEntries lower upper)).isSome = true ↔
      (lookup? key lower).isSome = true ∨ (lookup? key upper).isSome = true := by
  rw [lookup?_overlayEntries h]
  cases lookup? key upper <;> cases lookup? key lower <;> simp

/-! ## Paths -/

/-- What a datum says at a path. -/
inductive Saying where
  /-- A key on the way is not there. -/
  | silent
  /-- Something else than a map stands on the way. -/
  | hidden
  | gives (d : Datum)
  deriving Inhabited

/-- What is said, if anything is. -/
def Saying.datum? : Saying → Option Datum
  | gives d => some d
  | _ => none

/-- What a datum says at a path of keys. -/
def sayingOf : Datum → List Datum → Saying
  | d, [] => .gives d
  | .map entries, key :: path =>
    match lookup? key entries with
    | some d => sayingOf d path
    | none => .silent
  | _, _ :: _ => .hidden

/-- What lies at a path of keys. -/
def valueAt? (d : Datum) (path : List Datum) : Option Datum :=
  (sayingOf d path).datum?

@[simp] theorem sayingOf_nil (d : Datum) : sayingOf d [] = .gives d := by
  cases d <;> rfl

@[simp] theorem valueAt?_nil (d : Datum) : valueAt? d [] = some d := by
  rw [valueAt?, sayingOf_nil]
  rfl

theorem sayingOf_map (entries : List (Datum × Datum)) (key : Datum) (path : List Datum) :
    sayingOf (.map entries) (key :: path) =
      match lookup? key entries with
      | some d => sayingOf d path
      | none => .silent :=
  rfl

theorem valueAt?_map (entries : List (Datum × Datum)) (key : Datum) (path : List Datum) :
    valueAt? (.map entries) (key :: path) = (lookup? key entries).bind (valueAt? · path) := by
  rw [valueAt?, sayingOf_map]
  cases lookup? key entries <;> rfl

/-- Nothing lies behind something else than a map. -/
theorem sayingOf_of_not_map {d : Datum} (h : d.entries? = none) (key : Datum) (path : List Datum) :
    sayingOf d (key :: path) = .hidden := by
  cases d <;> first | rfl | cases h

theorem valueAt?_of_not_map {d : Datum} (h : d.entries? = none) (key : Datum) (path : List Datum) :
    valueAt? d (key :: path) = none := by
  rw [valueAt?, sayingOf_of_not_map h]
  rfl

theorem valueAt?_eq_some_iff {d v : Datum} {path : List Datum} : valueAt? d path = some v ↔ sayingOf d path = .gives v := by
  rw [valueAt?]
  cases sayingOf d path <;> simp [Saying.datum?]

/-- What lies behind a place is what lies at a path from there. -/
theorem valueAt?_append (d : Datum) (front rest : List Datum) :
    valueAt? d (front ++ rest) = (valueAt? d front).bind (valueAt? · rest) := by
  induction front generalizing d with
  | nil => simp
  | cons key front ih =>
      cases d with
      | map entries =>
          rw [List.cons_append, valueAt?_map, valueAt?_map]
          cases lookup? key entries with
          | none => rfl
          | some e => exact ih e
      | _ => rfl

/-- What lies at a path of a proper datum is proper. -/
theorem Proper.of_valueAt? {d e : Datum} {path : List Datum} (h : Proper d) (he : valueAt? d path = some e) : Proper e := by
  induction path generalizing d with
  | nil =>
      rw [valueAt?_nil] at he
      exact Option.some.inj he ▸ h
  | cons key path ih =>
      cases d with
      | map entries =>
          obtain ⟨inner, hinner, he⟩ := Option.bind_eq_some_iff.mp ((valueAt?_map entries key path).symm.trans he)
          obtain ⟨entry, hfind, rfl⟩ := Option.map_eq_some_iff.mp hinner
          exact ih (h.of_mem (List.mem_of_find?_eq_some hfind)) he
      | _ => cases he

/-- **What hides a path**: something else than a map, before its end. -/
theorem sayingOf_eq_hidden_iff {d : Datum} {path : List Datum} :
    sayingOf d path = .hidden ↔
      ∃ front rest u, path = front ++ rest ∧ rest ≠ [] ∧ valueAt? d front = some u ∧ u.entries? = none := by
  constructor
  · intro h
    induction path generalizing d with
    | nil => simp at h
    | cons key path ih =>
        cases d with
        | map entries =>
            rw [sayingOf_map] at h
            cases hlookup : lookup? key entries with
            | none => simp [hlookup] at h
            | some e =>
                rw [hlookup] at h
                obtain ⟨front, rest, u, rfl, hrest, hu, hplain⟩ := ih h
                exact ⟨key :: front, rest, u, rfl, hrest, by rw [valueAt?_map, hlookup]; exact hu, hplain⟩
        | _ => exact ⟨[], key :: path, _, rfl, List.cons_ne_nil key path, rfl, rfl⟩
  · rintro ⟨front, rest, u, rfl, hrest, hu, hplain⟩
    induction front generalizing d with
    | nil =>
        obtain ⟨key, rest, rfl⟩ := List.exists_cons_of_ne_nil hrest
        obtain rfl : d = u := by simpa using hu
        exact sayingOf_of_not_map hplain key rest
    | cons key front ih =>
        cases d with
        | map entries =>
            rw [valueAt?_map] at hu
            obtain ⟨e, hlookup, hu⟩ := Option.bind_eq_some_iff.mp hu
            rw [List.cons_append, sayingOf_map, hlookup]
            exact ih hu
        | _ => rfl

/-! ## Overlays -/

/-- Laid over something else than a map, a datum is as it is. -/
theorem overlay_on_not_map {lower : Datum} (h : lower.entries? = none) (upper : Datum) : overlay lower upper = upper := by
  cases upper <;> cases lower <;> first | rfl | cases h

/-- **What lies at a path of one datum laid over another.**  What the upper one says counts, with the lower one under it
where both say maps; behind what the upper one hides nothing lies; and where it is silent the lower one is asked. -/
theorem valueAt?_overlay {upper : Datum} (h : Proper upper) (lower : Datum) (path : List Datum) :
    valueAt? (overlay lower upper) path =
      match sayingOf upper path with
      | .gives u => some (match valueAt? lower path with
        | some l => overlay l u
        | none => u)
      | .hidden => none
      | .silent => valueAt? lower path := by
  induction path generalizing lower upper with
  | nil => simp
  | cons key path ih =>
      cases hupper : upper.entries? with
      | none => rw [overlay_of_not_map lower hupper, valueAt?, sayingOf_of_not_map hupper]; rfl
      | some more =>
          obtain rfl : upper = .map more := by cases upper <;> simp_all [entries?]
          cases hlower : lower.entries? with
          | none =>
              rw [overlay_on_not_map hlower, valueAt?_of_not_map hlower, valueAt?]
              cases sayingOf (.map more) (key :: path) <;> rfl
          | some entries =>
              obtain rfl : lower = .map entries := by cases lower <;> simp_all [entries?]
              rw [overlay, valueAt?_map, lookup?_overlayEntries h.distinct, sayingOf_map, valueAt?_map]
              cases hu : lookup? key more with
              | none => rfl
              | some u =>
                  cases lookup? key entries with
                  | none =>
                      simp only [Option.bind_some, Option.bind_none, valueAt?]
                      cases sayingOf u path <;> rfl
                  | some l =>
                      obtain ⟨entry, hfind, rfl⟩ := Option.map_eq_some_iff.mp hu
                      exact ih (h.of_mem (List.mem_of_find?_eq_some hfind)) l

end MetaSearch.Datum
