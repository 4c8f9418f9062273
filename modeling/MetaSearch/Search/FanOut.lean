import MetaSearch.Number.Shortest
import MetaSearch.Search.Merged
import MetaSearch.Site.Query

/-!
# Fanning out

One query put to several searchers. Whatever a searcher does, it comes to an outcome: a crash and a missed deadline
are failures like others, and none of them touches what the others found.
-/

namespace MetaSearch

/-- What comes of asking one searcher. -/
inductive Reply where
  | outcome (o : Outcome)
  /-- The search broke off. -/
  | crashed (message : String)
  /-- Nothing came before the deadline. -/
  | late
  deriving Repr, Inhabited

/-- Something that can be searched. -/
structure Searcher (σ : Type) where
  id : String
  name : String
  ask : Query → StateM σ Reply

/-- What is said of a missed deadline. -/
def lateMessage (deadline : Binary64) : String :=
  "no response within " ++ deadline.general ++ "s"

namespace Searcher

variable {σ : Type}

/-- The outcome that a reply comes to. -/
def settle (s : Searcher σ) (deadline : Binary64) : Reply → Outcome
  | .outcome o => o
  | .crashed message =>
    { indexerId := s.id, indexerName := s.name, failure := some { kind := .internal, message } }
  | .late =>
    { indexerId := s.id, indexerName := s.name
      failure := some { kind := .timeout, message := lateMessage deadline } }

/-- The search of one searcher; with no time at all it is not even asked. -/
def search (s : Searcher σ) (deadline : Binary64) (query : Query) : StateM σ Outcome := do
  if deadline.isZero || deadline.lt .zero then return s.settle deadline .late
  return s.settle deadline (← s.ask query)

end Searcher

/-- The searches of several searchers, one after the other, put together. -/
def fanOut {σ : Type} (searchers : List (Searcher σ)) (deadline : Binary64) (query : Query) : StateM σ Merged := do
  return Merged.ofOutcomes (← searchers.mapM fun s => s.search deadline query)

end MetaSearch
