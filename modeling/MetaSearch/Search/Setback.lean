import MetaSearch.Fault

/-!
# Setbacks

Why an attempt to search a site came to nothing, and the kind under which a failed search is reported. A setback
of an attempt is followed by the next attempt; a fault ends the search of the site.
-/

namespace MetaSearch

/-- What went wrong in one attempt, with a message for people. -/
inductive Setback where
  /-- The site put a puzzle in the way. -/
  | challenged (message : String)
  /-- The site could not be reached, or refused. -/
  | unreachable (message : String)
  /-- The answer could not be read. -/
  | unreadable (message : String)
  /-- A field that must be there was not found. -/
  | missed (message : String)
  deriving DecidableEq, Repr, Inhabited

/-- The message of a setback. -/
def Setback.message : Setback → String
  | challenged m | unreachable m | unreadable m | missed m => m

/-- The kinds under which failed searches are reported. -/
inductive FailureKind where
  | challenge | transient | parse | timeout | exhausted | unknownIndexer | internal
  deriving DecidableEq, Repr, Inhabited

/-- The name of a kind. -/
def FailureKind.name : FailureKind → String
  | challenge => "challenge"
  | transient => "transient"
  | parse => "parse"
  | timeout => "timeout"
  | exhausted => "exhausted"
  | unknownIndexer => "unknown_indexer"
  | internal => "internal"

/-- All kinds. -/
def FailureKind.all : List FailureKind :=
  [challenge, transient, parse, timeout, exhausted, unknownIndexer, internal]

/-- The kind with a name. -/
def FailureKind.ofName? (name : String) : Option FailureKind :=
  all.find? (·.name == name)

theorem FailureKind.ofName?_name (k : FailureKind) : ofName? k.name = some k := by
  cases k <;> rfl

/-- The kind of a search whose last setback is given; without any, all attempts are used up. -/
def FailureKind.ofLast : Option Setback → FailureKind
  | some (.challenged _) => challenge
  | some (.unreachable _) => transient
  | some (.unreadable _) => parse
  | some (.missed _) | none => exhausted

/-- What keeps an operation on a site's answer from a result. -/
inductive Trouble where
  | setback (s : Setback)
  | fault (f : Fault)
  deriving DecidableEq, Repr, Inhabited

/-- An operation that only faults, as one that may also meet setbacks. -/
def orTrouble {α : Type} : Except Fault α → Except Trouble α
  | .ok a => .ok a
  | .error f => .error (.fault f)

/-- The setback that stands in for a result. -/
def giveUp {α : Type} (s : Setback) : Except Trouble α :=
  .error (.setback s)

end MetaSearch
