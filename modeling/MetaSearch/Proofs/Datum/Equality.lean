import MetaSearch.Site.Basic

/-!
# Equality of data

A datum may hold lists of data and maps from data to data, at any depth.  `same` goes through two data side by side, and
`same_iff` says that it tells equal ones from others, so that equality of data, of rows and of definitions can be decided.
-/

namespace MetaSearch.Datum

mutual

/-- Whether two data are equal. -/
def same : Datum → Datum → Bool
  | .null, .null => true
  | .bool a, .bool b => a == b
  | .int i, .int j => i == j
  | .float x, .float y => x == y
  | .text s, .text t => s == t
  | .list xs, .list ys => sameItems xs ys
  | .map es, .map fs => sameEntries es fs
  | .date d, .date e => d == e
  | .stamp r, .stamp q => r == q
  | .bytes u, .bytes v => u == v
  | _, _ => false

/-- Whether two lists of data are equal, item by item. -/
def sameItems : List Datum → List Datum → Bool
  | [], [] => true
  | x :: xs, y :: ys => same x y && sameItems xs ys
  | _, _ => false

/-- Whether two maps are equal, entry by entry in their order. -/
def sameEntries : List (Datum × Datum) → List (Datum × Datum) → Bool
  | [], [] => true
  | (k, x) :: es, (l, y) :: fs => same k l && same x y && sameEntries es fs
  | _, _ => false

end

mutual

theorem same_iff : ∀ x y : Datum, same x y = true ↔ x = y
  | .list xs, y => by cases y <;> simp [same, sameItems_iff xs]
  | .map es, y => by cases y <;> simp [same, sameEntries_iff es]
  | .null, y | .bool a, y | .int i, y | .float x, y | .text s, y | .date d, y | .stamp r, y | .bytes u, y => by
      cases y <;> simp [same]

theorem sameItems_iff : ∀ xs ys : List Datum, sameItems xs ys = true ↔ xs = ys
  | [], ys => by cases ys <;> simp [sameItems]
  | x :: xs, ys => by cases ys <;> simp [sameItems, same_iff x, sameItems_iff xs]

theorem sameEntries_iff : ∀ es fs : List (Datum × Datum), sameEntries es fs = true ↔ es = fs
  | [], fs => by cases fs <;> simp [sameEntries]
  | (k, x) :: es, fs => by cases fs <;> simp [sameEntries, same_iff k, same_iff x, sameEntries_iff es, Prod.ext_iff]

end

instance : DecidableEq Datum := fun x y => decidable_of_iff (same x y = true) (same_iff x y)

end MetaSearch.Datum

namespace MetaSearch

deriving instance DecidableEq for FilterCall, FieldRule, RowRule, SearchPath, SearchRule, Setting, Definition

end MetaSearch
