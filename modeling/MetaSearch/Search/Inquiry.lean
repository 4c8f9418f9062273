import MetaSearch.Release.Order
import MetaSearch.Text.Quoted

/-!
# Inquiries

What a user asks of all indexers together. An inquiry is checked before anything is searched: `SearchForm.check`
reads the names in it, and the first thing that is wrong is reported.
-/

namespace MetaSearch

/-- What is asked, as it is written. -/
structure SearchForm where
  text : String
  /-- The identifiers of the indexers that are asked; none stand for all. -/
  indexerIds : List String := []
  /-- The codes of the wanted categories; none stand for all. -/
  categoryIds : List Int := []
  sortBy : String := "age"
  sortOrder : String := "desc"
  limit : Int := 100
  offset : Int := 0
  /-- Whether kept answers are passed over. -/
  fresh : Bool := false
  deriving DecidableEq, Repr, Inhabited

/-- What is asked, checked. -/
structure Inquiry where
  text : String
  indexerIds : List String
  categoryIds : List Int
  field : SortField
  descending : Bool
  limit : Nat
  offset : Nat
  fresh : Bool
  deriving DecidableEq, Repr, Inhabited

/-- What is wrong with a question. -/
inductive BadInquiry where
  | noText
  | sortField (name : String)
  | sortOrder (name : String)
  | limit (greatest : Int)
  | offset
  deriving DecidableEq, Repr, Inhabited

/-- What is said of a wrong question. -/
def BadInquiry.message : BadInquiry → String
  | noText => "Missing query text"
  | sortField name => "Unsupported sort field: " ++ Text.quoted name
  | sortOrder name => "Unsupported sort order: " ++ Text.quoted name
  | limit greatest => "limit must be between 1 and " ++ toString greatest
  | offset => "offset must be >= 0"

/-- Whether a name is that of the descending order. -/
def descending? : String → Option Bool
  | "desc" => some true
  | "asc" => some false
  | _ => none

/-- A question, checked; pages hold at most `greatest` releases. -/
def SearchForm.check (f : SearchForm) (greatest : Int) : Except BadInquiry Inquiry :=
  let text := Text.strip f.text
  if text.isEmpty then .error .noText
  else
    match SortField.ofName? f.sortBy with
    | none => .error (.sortField f.sortBy)
    | some field =>
      match descending? f.sortOrder with
      | none => .error (.sortOrder f.sortOrder)
      | some descending =>
        if f.limit < 1 ∨ greatest < f.limit then .error (.limit greatest)
        else if f.offset < 0 then .error .offset
        else
          .ok { text, indexerIds := f.indexerIds, categoryIds := f.categoryIds, field, descending
                limit := f.limit.toNat, offset := f.offset.toNat, fresh := f.fresh }

end MetaSearch
