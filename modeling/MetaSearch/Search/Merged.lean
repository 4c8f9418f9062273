import MetaSearch.Search.Inquiry
import MetaSearch.Search.Outcome

/-!
# Merged outcomes

What the searches of several indexers found together: the releases, one summary for each indexer, and one entry for
each failure, all in the order of the indexers. A page is cut from it for one inquiry: releases of the wanted
categories, sorted, from an offset on. `length_releases_ofOutcomes` says that the counts of the summaries add up.
-/

namespace MetaSearch

/-- What one indexer contributed. -/
structure Summary where
  indexerId : String
  indexerName : String
  count : Nat := 0
  /-- Why the search failed, where it did. -/
  error : Option String := none
  deriving DecidableEq, Repr, Inhabited

/-- Whether an indexer answered. -/
def Summary.isSuccess (s : Summary) : Bool :=
  s.error.isNone

/-- Why one indexer contributed nothing. -/
structure SearchError where
  indexerId : String
  indexerName : String
  kind : FailureKind
  message : String
  deriving DecidableEq, Repr, Inhabited

/-- The summary of an outcome. -/
def Outcome.summary (o : Outcome) : Summary :=
  { indexerId := o.indexerId, indexerName := o.indexerName, count := o.releases.length
    error := o.failure.map Failure.message }

/-- The entry of an outcome that is a failure. -/
def Outcome.error? (o : Outcome) : Option SearchError :=
  o.failure.map fun f =>
    { indexerId := o.indexerId, indexerName := o.indexerName, kind := f.kind, message := f.message }

/-- What several searches found, unsorted. -/
structure Merged where
  releases : List Release := []
  summaries : List Summary := []
  errors : List SearchError := []
  deriving DecidableEq, Repr, Inhabited

namespace Merged

/-- Outcomes put together. -/
def ofOutcomes (outcomes : List Outcome) : Merged :=
  { releases := outcomes.flatMap (·.releases), summaries := outcomes.map Outcome.summary
    errors := outcomes.filterMap Outcome.error? }

/-- Whether any indexer answered. -/
def hasSuccess (m : Merged) : Bool :=
  m.summaries.any Summary.isSuccess

/-- The releases that an inquiry wants, in its order. -/
def wanted (m : Merged) (q : Inquiry) : List Release :=
  Release.sorted q.field q.descending (m.releases.filter (Release.isFiledUnder q.categoryIds))

theorem length_releases_ofOutcomes (outcomes : List Outcome) :
    (ofOutcomes outcomes).releases.length = (ofOutcomes outcomes).summaries.foldr (fun s n => s.count + n) 0 := by
  induction outcomes with
  | nil => rfl
  | cons o rest ih =>
    simp only [ofOutcomes, List.flatMap_cons, List.length_append, List.map_cons, List.foldr_cons] at ih ⊢
    rw [ih]
    rfl

end Merged

/-- A page of what was found. -/
structure ResultPage where
  releases : List Release
  /-- How many releases there are on all pages. -/
  total : Nat
  limit : Nat
  offset : Nat
  summaries : List Summary
  errors : List SearchError
  /-- Whether the outcomes had been kept. -/
  cached : Bool
  deriving DecidableEq, Repr, Inhabited

/-- The page of an inquiry, with entries for indexers that are not there. -/
def Merged.page (m : Merged) (q : Inquiry) (unknown : List SearchError) (cached : Bool) : ResultPage :=
  let wanted := m.wanted q
  { releases := (wanted.drop q.offset).take q.limit, total := wanted.length, limit := q.limit, offset := q.offset
    summaries := m.summaries, errors := unknown ++ m.errors, cached }

end MetaSearch
