import MetaSearch.Release.Basic
import MetaSearch.Text.Letter

/-!
# The order of releases

Releases come by the priority of their indexer, then by a chosen property, then by the name of the indexer. The
order is built from three stable passes, the least important one first, so releases that agree in all three keep
the order in which they were found.
-/

namespace MetaSearch

/-- The properties by which releases can be sorted. -/
inductive SortField where
  | age | title | size | seeders | leechers | peers | grabs | category | indexer | protocol
  deriving DecidableEq, Repr, Inhabited

namespace SortField

/-- The names of the properties. -/
def names : List (String × SortField) :=
  [("age", .age), ("title", .title), ("size", .size), ("seeders", .seeders), ("leechers", .leechers),
   ("peers", .peers), ("grabs", .grabs), ("category", .category), ("indexer", .indexer),
   ("protocol", .protocol)]

/-- The property with a name. -/
def ofName? (name : String) : Option SortField :=
  (names.find? (·.1 == name)).map (·.2)

/-- What releases are compared by: a number or a text. -/
inductive Key where
  | number (i : Int)
  | text (s : String)
  deriving DecidableEq, Repr

/-- Whether one key does not come after another of the same property. -/
def Key.le : Key → Key → Bool
  | number i, number j => i ≤ j
  | text s, text t => s ≤ t
  | number _, text _ => true
  | text _, number _ => false

/-- What a property compares of a release. -/
def key (field : SortField) (r : Release) : Key :=
  match field with
  | age => .number r.age
  | title => .text (Text.fold r.title)
  | size => .number r.size
  | seeders => .number r.seeders
  | leechers => .number r.leechers
  | peers => .number r.peers
  | grabs => .number r.grabs
  | category => .number (r.categories.headD 0)
  | indexer => .text (Text.fold r.indexerName)
  | protocol => .text r.protocol

end SortField

namespace Release

/-- Whether one release may stand before another when sorted by a property. -/
def inOrder (field : SortField) (descending : Bool) (a b : Release) : Bool :=
  if descending then (field.key b).le (field.key a) else (field.key a).le (field.key b)

/-- Releases by the priority of their indexer, then by a property, then by the name of the indexer. -/
def sorted (field : SortField) (descending : Bool) (releases : List Release) : List Release :=
  let byName := releases.mergeSort fun a b => Text.fold a.indexerName ≤ Text.fold b.indexerName
  let byField := byName.mergeSort (inOrder field descending)
  byField.mergeSort fun a b => a.priority ≤ b.priority

theorem sorted_perm (field : SortField) (descending : Bool) (releases : List Release) :
    (sorted field descending releases).Perm releases :=
  ((List.mergeSort_perm _ _).trans (List.mergeSort_perm _ _)).trans (List.mergeSort_perm _ _)

end Release

end MetaSearch
