import MetaSearch.Digest.Sha256
import MetaSearch.Text.Blank
import MetaSearch.Text.Letter
import MetaSearch.Text.Utf8

/-!
# Search keys

Two searches share an answer when they have the same key: the same query but for case and blanks around it, the
same set of indexers and the same set of categories sent along.
-/

namespace MetaSearch

/-- The distinct items of a list in ascending order. -/
def distinctSorted {α : Type} [BEq α] (le : α → α → Bool) (xs : List α) : List α :=
  (xs.mergeSort le).eraseDups

/-- What the key of a search is the digest of. -/
def searchIdentity (query : String) (indexerIds : List String) (categories : List Int) : String :=
  Text.fold (Text.strip query) ++ "|" ++
    ",".intercalate (distinctSorted (fun a b => a ≤ b) indexerIds) ++ "|" ++
    ",".intercalate ((distinctSorted (fun a b => a ≤ b) categories).map fun c => toString c)

/-- The key of a search. -/
def searchKey (query : String) (indexerIds : List String) (categories : List Int) : String :=
  "search:" ++ String.ofList
    ((Sha256.hexDigest (Utf8.encode (searchIdentity query indexerIds categories).toList)).toList.take 16)

end MetaSearch
