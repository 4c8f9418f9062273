import MetaSearch.Category.Basic
import MetaSearch.Filter.Basic

/-!
# Category mappings

A site files releases under categories of its own. Mappings say which category of the table a site's category
stands for; a release that no mapping covers is filed by what its category says by itself.
-/

namespace MetaSearch

/-- What a site's category, known by its identifier and a description, stands for. -/
structure CategoryMapping where
  id : String
  target : String
  description : String := ""
  deriving DecidableEq, Repr, Inhabited

namespace Category

/-- The known code that a text of digits spells. Digit signs that form no number are a fault. -/
def spelledCode? (text : String) : Except Fault (Option Nat) :=
  if Text.isDigitText text then
    match Numeral.int? text with
    | none => .error .notANumber
    | some code => .ok (if isKnown code then some code.toNat else none)
  else .ok none

/-- The code of a mapping's target: a code of the table, or a category name. -/
def codeOfTarget (target : String) : Except Fault Nat := do
  let text := Text.strip target
  return (← spelledCode? text).getD (codeOfName text)

/-- Whether a mapping's description and a site's category, both without case, hold one another. -/
def describes (mapping : CategoryMapping) (category : String) : Bool :=
  let description := Text.fold (Text.strip mapping.description)
  !description.isEmpty && (Text.contains category description || Text.contains description category)

/-- The code of a site's category: by the identifier of a mapping, by the description of a mapping, as a code
of the table, or as a category name. -/
def codeOfSite (category : Datum) (mappings : List CategoryMapping) : Except Fault Nat := do
  let raw := Text.strip category.asText
  if raw.isEmpty then return other
  match mappings.find? fun m => Text.strip m.id == raw with
  | some m => codeOfTarget m.target
  | none =>
    match mappings.find? (describes · (Text.fold raw)) with
    | some m => codeOfTarget m.target
    | none => return (← spelledCode? raw).getD (codeOfName raw)

/-- The codes of the mappings in use, each once and in ascending order. -/
def codesOfMappings (mappings : List CategoryMapping) : Except Fault (List Nat) := do
  let codes ← mappings.mapM fun m => codeOfTarget m.target
  return (codes.mergeSort (· ≤ ·)).eraseDups

end Category

end MetaSearch
