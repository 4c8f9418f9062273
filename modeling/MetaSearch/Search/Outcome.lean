import MetaSearch.Release.Basic
import MetaSearch.Search.Setback

/-!
# Outcomes

What became of the search of one site: releases, or a failure of a kind, never both.
-/

namespace MetaSearch

/-- Why a search came to nothing, after how many attempts. -/
structure Failure where
  kind : FailureKind
  message : String := ""
  attempts : Nat := 0
  deriving DecidableEq, Repr, Inhabited

/-- What became of the search of a site. -/
structure Outcome where
  indexerId : String
  indexerName : String
  releases : List Release := []
  failure : Option Failure := none
  deriving Repr, Inhabited

/-- Whether a search has an answer. -/
def Outcome.isSuccess (o : Outcome) : Bool :=
  o.failure.isNone

end MetaSearch
