/-!
# Fields

Lists of names with values, in the order in which the names were first set. `lookup_put_self` and
`lookup_put_of_ne` say what setting a field changes.
-/

namespace MetaSearch.Fields

variable {α : Type}

/-- The fields with one set: in place where its name is there, else at the end. -/
def put (name : String) (value : α) : List (String × α) → List (String × α)
  | [] => [(name, value)]
  | (n, v) :: rest => if n = name then (n, value) :: rest else (n, v) :: put name value rest

/-- The fields with those of another list set. -/
def merge (fields more : List (String × α)) : List (String × α) :=
  more.foldl (fun fields (name, value) => put name value fields) fields

theorem lookup_put_self (name : String) (value : α) (fields : List (String × α)) :
    List.lookup name (put name value fields) = some value := by
  induction fields with
  | nil => simp [put]
  | cons field rest ih =>
    obtain ⟨n, v⟩ := field
    by_cases h : n = name
    · subst h
      simp [put]
    · have : (name == n) = false := by simp [Ne.symm h]
      simp [put, h, List.lookup_cons, this, ih]

theorem lookup_put_of_ne {name other : String} (h : other ≠ name) (value : α)
    (fields : List (String × α)) :
    List.lookup other (put name value fields) = List.lookup other fields := by
  have hb : (other == name) = false := by simp [h]
  induction fields with
  | nil => simp [put, List.lookup_cons, hb]
  | cons field rest ih =>
    obtain ⟨n, v⟩ := field
    by_cases hn : n = name
    · subst hn
      simp [put, List.lookup_cons, hb]
    · simp [put, hn, List.lookup_cons, ih]

theorem merge_append (fields first second : List (String × α)) :
    merge fields (first ++ second) = merge (merge fields first) second := by
  simp [merge]

end MetaSearch.Fields
