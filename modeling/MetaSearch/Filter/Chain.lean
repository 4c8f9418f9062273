import MetaSearch.Filter.Number
import MetaSearch.Filter.Text
import MetaSearch.Filter.Time

/-!
# Filter chains

A chain runs a value through its calls in order. A call that faults leaves the value as it is, so a chain
always has a result.
-/

namespace MetaSearch

/-- What a filter makes of a value at a given time. -/
def FilterKind.run (now : Moment) (call : FilterCall) (value : Datum) : FilterKind → Except Fault Datum
  | .append => .ok (Filter.append call value)
  | .prepend => .ok (Filter.prepend call value)
  | .replace => .ok (Filter.replace call value)
  | .reReplace => Filter.reReplace call value
  | .trim => .ok (Filter.trim call value)
  | .split => Filter.split call value
  | .join => .ok (Filter.join call value)
  | .toLower => .ok (.text (Text.lower value.asText))
  | .toUpper => .ok (.text (Text.upper value.asText))
  | .urlEncode => .ok (.text (Percent.quote "!*'()" value.asText))
  | .urlDecode => .ok (.text (Percent.decode value.asText))
  | .htmlEncode => .ok (.text (Markup.escape value.asText))
  | .htmlDecode => .ok (.text (Text.replace "\u00a0" " " (Markup.unescape value.asText)))
  | .diacritics => .ok (.text (Text.romanize value.asText))
  | .validate => .ok (Filter.validate call value)
  | .regexp => Filter.regexp call value
  | .queryString => Filter.queryString call value
  | .dateParse => Filter.dateParse now call value
  | .timeAgo => Filter.timeAgo now value
  | .fuzzyTime => Filter.fuzzyTime now call value
  | .int => Filter.toInt value
  | .float => Filter.toFloat value
  | .strDump | .andMatch | .identity => .ok value

/-- The value after one call; unchanged where the call faults. -/
def FilterCall.apply (now : Moment) (call : FilterCall) (value : Datum) : Datum :=
  match (FilterKind.ofName call.name).run now call value with
  | .ok v => v
  | .error _ => value

/-- The value after all calls in order. -/
def applyFilters (now : Moment) (chain : List FilterCall) (value : Datum) : Datum :=
  chain.foldl (fun v call => call.apply now v) value

@[simp] theorem applyFilters_nil (now : Moment) (value : Datum) : applyFilters now [] value = value := rfl

theorem applyFilters_append (now : Moment) (first second : List FilterCall) (value : Datum) :
    applyFilters now (first ++ second) value = applyFilters now second (applyFilters now first value) := by
  simp [applyFilters]

end MetaSearch
