import MetaSearch.Search.FanOut
import MetaSearch.Search.Key

/-!
# Aggregate searches

An inquiry is planned, looked up among the outcomes that were kept, put to the indexers if need be, and answered with
a page. Outcomes are kept before they are sorted and cut, so that one of them answers many inquiries. Keeping is a
convenience: when it fails, searches go on without it.
-/

namespace MetaSearch

/-- What a cache gives back for a key. -/
inductive Kept where
  | merged (m : Merged)
  /-- Something that is no outcome of searches. -/
  | foreign
  deriving Repr, Inhabited

/-- A cache for the outcomes of searches. -/
structure MergedCache (σ : Type) where
  read : (key : String) → StateM σ (Except Fault (Option Kept))
  write : (key : String) → Merged → (lifetime : Int) → StateM σ (Except Fault Unit)

/-- How searches are put together. -/
structure Aggregator (σ : Type) where
  cache : Option (MergedCache σ) := none
  /-- How many seconds outcomes are kept; none are where this is not above zero. -/
  lifetime : Int := 120
  deadline : Binary64 := .ofRatio false 30 1
  /-- Whether wanted categories are sent along. -/
  forwards : Bool := false
  maxLimit : Int := 1000

/-- An inquiry with what it is put to. -/
structure SearchPlan (σ : Type) where
  inquiry : Inquiry
  searchers : List (Searcher σ)
  /-- Entries for the indexers that are asked and not there. -/
  unknown : List SearchError
  query : Query
  key : String

/-- The entry for an indexer that is not there. -/
def SearchError.unknown (id : String) : SearchError :=
  { indexerId := id, indexerName := id, kind := .unknownIndexer
    message := "Indexer '" ++ id ++ "' is not configured or not enabled" }

namespace Aggregator

variable {σ : Type}

/-- The searchers that are asked, and entries for those asked that are not there. -/
def select (available : List (Searcher σ)) (ids : List String) : List (Searcher σ) × List SearchError :=
  if ids.isEmpty then (available, [])
  else
    let selected := available.filter fun s => ids.contains s.id
    let known := selected.map (·.id)
    (selected, (ids.eraseDups.filter fun id => !known.contains id).map SearchError.unknown)

/-- The plan of a question. -/
def plan (a : Aggregator σ) (available : List (Searcher σ)) (f : SearchForm) : Except BadInquiry (SearchPlan σ) :=
  (f.check a.maxLimit).map fun inquiry =>
    let (searchers, unknown) := select available inquiry.indexerIds
    let forwarded := if a.forwards then inquiry.categoryIds else []
    { inquiry, searchers, unknown, query := { keywords := inquiry.text, categories := forwarded }
      key := searchKey inquiry.text (searchers.map (·.id)) forwarded }

/-- The cache, unless nothing is kept. -/
def activeCache (a : Aggregator σ) : Option (MergedCache σ) :=
  if 0 < a.lifetime then a.cache else none

/-- The outcomes that were kept for a plan. -/
def retrieve (a : Aggregator σ) (p : SearchPlan σ) : StateM σ (Option Merged) := do
  if p.inquiry.fresh then return none
  match a.activeCache with
  | none => return none
  | some cache =>
    match ← cache.read p.key with
    | .ok (some (.merged m)) => return some m
    | _ => return none

/-- Outcomes kept for a plan, where any indexer answered. -/
def keep (a : Aggregator σ) (p : SearchPlan σ) (m : Merged) : StateM σ Unit := do
  match a.activeCache with
  | none => return ()
  | some cache =>
    if m.hasSuccess then
      let _ ← cache.write p.key m a.lifetime

/-- The page of a plan. -/
def page (p : SearchPlan σ) (m : Merged) (cached : Bool) : ResultPage :=
  m.page p.inquiry p.unknown cached

/-- A plan carried out. -/
def carryOut (a : Aggregator σ) (p : SearchPlan σ) : StateM σ ResultPage := do
  match ← a.retrieve p with
  | some m => return page p m true
  | none =>
    let m ← fanOut p.searchers a.deadline p.query
    a.keep p m
    return page p m false

/-- A question answered. -/
def search (a : Aggregator σ) (available : List (Searcher σ)) (f : SearchForm) :
    StateM σ (Except BadInquiry ResultPage) := do
  match a.plan available f with
  | .error e => return .error e
  | .ok p => return .ok (← a.carryOut p)

end Aggregator

end MetaSearch
