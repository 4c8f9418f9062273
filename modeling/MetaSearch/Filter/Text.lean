import MetaSearch.Address.Reference
import MetaSearch.Filter.Basic
import MetaSearch.Markup.Entity
import MetaSearch.Pattern.Replacement
import MetaSearch.Text.Romanized

/-!
# Text filters

Filters that cut, join, rewrite, encode and search text. Each takes the call and the value; a fault means that
the call cannot be carried out.
-/

namespace MetaSearch.Filter

/-- The value with the argument behind it. -/
def append (call : FilterCall) (value : Datum) : Datum :=
  .text (value.asText ++ call.argText 0 "")

/-- The value with the argument before it. -/
def prepend (call : FilterCall) (value : Datum) : Datum :=
  .text (call.argText 0 "" ++ value.asText)

/-- The value with the second argument in place of the first. -/
def replace (call : FilterCall) (value : Datum) : Datum :=
  let needle := call.argText 0 ""
  .text (if needle.isEmpty then value.asText else Text.replace needle (call.argText 1 "") value.asText)

/-- The value with the second argument in place of what the pattern in the first matches. -/
def reReplace (call : FilterCall) (value : Datum) : Except Fault Datum :=
  match Pattern.read? (call.argText 0 "") with
  | none => .error .badPattern
  | some pattern =>
    match pattern.substitute? (call.argText 1 "") value.asText with
    | some s => .ok (.text s)
    | none => .error .badPattern

/-- The value without blanks, or without the characters of the argument, at either end. -/
def trim (call : FilterCall) (value : Datum) : Datum :=
  let text := value.asText
  match call.arg? 0 with
  | some cutset => .text (if cutset.isTruthy then Text.stripOf cutset.printed text else Text.strip text)
  | none => .text (Text.strip text)

/-- The item of a list at a whole position, from the end for a negative one. -/
def itemAt? (parts : List String) (index : Int) : Option String :=
  if 0 ≤ index then parts[index.toNat]?
  else if -index ≤ parts.length then parts[(parts.length + index).toNat]?
  else none

/-- The parts of the value between separators, or one of them. -/
def split (call : FilterCall) (value : Datum) : Except Fault Datum :=
  let sep := call.argText 0 " "
  let parts := Text.split (if sep.isEmpty then " " else sep) value.asText
  match call.arg? 1 with
  | none => .ok (.texts parts)
  | some index => do
    let i ← index.toInt
    .ok (.text ((itemAt? parts i).getD ""))

/-- The items of a list with the argument between them. -/
def join (call : FilterCall) (value : Datum) : Datum :=
  match value with
  | .list xs => .text ((call.argText 0 "").intercalate (Datum.asTexts xs))
  | other => other

/-- The words of the value that stand in the list of allowed words. -/
def validate (call : FilterCall) (value : Datum) : Datum :=
  let text := value.asText
  match call.arg? 0 with
  | none => .text text
  | some allowed =>
    let words := match allowed with
      | .list xs => Datum.asTexts xs
      | other => Text.split "," other.asText
    let known := (words.map Text.strip).filter (!·.isEmpty) |>.map Text.fold
    let tokens := (Text.split (if Text.contains text "," then "," else " ") text).map Text.strip
    .text (",".intercalate (tokens.filter fun t => known.contains (Text.fold t)))

/-- What the pattern in the first argument matches: the group in the second, or else the first group that took
part, or else the whole match. -/
def regexp (call : FilterCall) (value : Datum) : Except Fault Datum :=
  match Pattern.read? (call.argText 0 "") with
  | none => .error .badPattern
  | some pattern =>
    let text := value.asText.toList.toArray
    match pattern.search? text with
    | none => .ok (.text "")
    | some m =>
      match call.arg? 1 with
      | some group => do
        let i ← group.toInt
        .ok (.text (if 0 ≤ i ∧ i ≤ pattern.groups then m.group text i.toNat else ""))
      | none => .ok (.text (if m.tookPart 1 then m.group text 1 else m.group text 0))

/-- The first value of the query field that the argument names. -/
def queryString (call : FilterCall) (value : Datum) : Except Fault Datum :=
  let field := call.argText 0 ""
  let text := value.asText
  if text.isEmpty || field.isEmpty then .ok (.text "")
  else
    match Reference.parse? text with
    | none => .error .badAddress
    | some r =>
      .ok (.text (((Percent.fields r.query).find? (·.1 == field)).elim "" (·.2)))

end MetaSearch.Filter
