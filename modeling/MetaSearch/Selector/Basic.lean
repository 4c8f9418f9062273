/-!
# Selectors

A selector names elements of a page by what they are and where they stand. It is a list of alternatives, each a
list of conditions that an element must meet together; a condition on what stands around an element holds the
conditions for that in turn.
-/

namespace MetaSearch.Selector

/-- How the value of an attribute is compared with a text. -/
inductive Comparison where
  | equal | begins | ends | holds | word | dashed
  deriving DecidableEq, Repr, Inhabited

/-- Where one element stands towards another: inside it or beside it, anywhere or next to it. -/
inductive Relation where
  | inside | child | beside | next
  deriving DecidableEq, Repr, Inhabited

/-- A condition on an element. -/
inductive Condition where
  /-- The element has a name; an asterisk stands for any. -/
  | tag (name : String)
  | id (name : String)
  | ofClass (name : String)
  | attribute (name : String) (comparison : Option (Comparison × String)) (caseless : Bool)
  /-- The place among what stands beside it is `step * n + offset` for some natural number `n`; only elements of
  the same name count, or only those that meet an alternative where there are any. -/
  | place (step offset : Int) (sameName fromEnd : Bool) (among : List (List Condition))
  | oneOf (alternatives : List (List Condition))
  | noneOf (alternatives : List (List Condition))
  /-- It stands in a relation to an element that meets conditions. -/
  | stands (relation : Relation) (conditions : List Condition)
  /-- An element that meets conditions stands in a relation to it. -/
  | holds (relation : Relation) (conditions : List Condition)
  /-- One of the texts stands in its text, or in one of the texts directly in it. -/
  | tells (texts : List String) (own : Bool)
  | language (ranges : List String)
  /-- Its text runs from right to left, or from left to right. -/
  | runs (leftwards : Bool)
  | root
  | scope
  | empty
  | standard
  | never
  deriving Repr, Inhabited

mutual

/-- How deep conditions are nested in a condition. -/
def Condition.depth : Condition → Nat
  | .place _ _ _ _ among => alternativesDepth among + 1
  | .oneOf alternatives | .noneOf alternatives => alternativesDepth alternatives + 1
  | .stands _ conditions | .holds _ conditions => conditionsDepth conditions + 1
  | _ => 1

/-- How deep conditions are nested in a list of conditions. -/
def conditionsDepth : List Condition → Nat
  | [] => 0
  | c :: cs => max c.depth (conditionsDepth cs)

/-- How deep conditions are nested in alternatives. -/
def alternativesDepth : List (List Condition) → Nat
  | [] => 0
  | a :: as => max (conditionsDepth a) (alternativesDepth as)

end

end MetaSearch.Selector
