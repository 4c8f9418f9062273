import MetaSearch.Address.Percent
import MetaSearch.Search.Inquiry
import MetaSearch.Shape.Scalar

/-!
# Questions

A question is put in the fields of a web address. Where a field is given more than once the last one counts, but for
the fields that are lists: those take all values, each of them with commas between its items.
-/

namespace MetaSearch.Question

/-- Why the fields of an address make no question. -/
inductive Unfit where
  /-- A field does not hold what it should. -/
  | field
  /-- The code of a category is no number. -/
  | category (text : String)
  deriving DecidableEq, Repr, Inhabited

/-- What is said of a wrong code. -/
def categoryMessage (text : String) : String :=
  "Invalid category id: " ++ Text.quoted text

/-- The fields of an address. -/
abbrev Fields := List (String × String)

/-- The value of a field. -/
def value? (fields : Fields) (name : String) : Option String :=
  fields.reverse.lookup name

/-- The items of a field that is a list. -/
def listed (fields : Fields) (name : String) : List String :=
  (fields.filter (·.1 == name)).flatMap fun (_, value) =>
    ((Text.split "," value).map Text.strip).filter fun s => !s.isEmpty

/-- The value of a field read with a shape, or a default where the field is not given. -/
def read {α : Type} (fields : Fields) (name : String) (shape : Shape α) (fallback : α) : Except Unfit α :=
  match value? fields name with
  | none => .ok fallback
  | some s =>
    match shape (.text s) with
    | .good a => .ok a
    | _ => .error .field

/-- The codes of categories. -/
def codes (parts : List String) : Except Unfit (List Int) :=
  parts.mapM fun part =>
    match Numeral.int? part with
    | some code => .ok code
    | none => .error (.category part)

/-- The question that the fields of an address put. -/
def form (fields : Fields) (defaultLimit : Int) : Except Unfit SearchForm := do
  let limit ← read fields "limit" Shape.whole defaultLimit
  let offset ← read fields "offset" Shape.whole 0
  let fresh ← read fields "fresh" Shape.truth false
  let categoryIds ← codes (listed fields "category_ids")
  return { text := (value? fields "query").getD "", indexerIds := listed fields "indexer_ids", categoryIds
           sortBy := (value? fields "sort_by").getD "age"
           sortOrder := Text.lower ((value? fields "sort_order").getD "desc"), limit, offset, fresh }

end MetaSearch.Question
