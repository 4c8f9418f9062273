import MetaSearch.Calendar.Absolute
import MetaSearch.Calendar.Relative
import MetaSearch.Filter.Basic

/-!
# Date filters

A date filter turns a text into a timestamp of universal time, or into nothing where the text names no moment.
-/

namespace MetaSearch.Filter

/-- The layout given as the first argument. -/
def layout? (call : FilterCall) : Option String :=
  (call.arg? 0).bind fun layout => if layout.isTruthy then some layout.asText else none

/-- The timestamp of a moment, or nothing. -/
def stamped (m : Option Moment) : Except Fault Datum :=
  match m with
  | some m => Datum.text <$> m.timestamp
  | none => .ok (.text "")

/-- The date named by a layout, or in a known format. -/
def dateParse (now : Moment) (call : FilterCall) (value : Datum) : Except Fault Datum := do
  stamped (← Calendar.absolute? value.asText (layout? call) now)

/-- The moment named relative to now, or else absolutely. -/
def timeAgo (now : Moment) (value : Datum) : Except Fault Datum := do
  let text := value.asText
  match ← Calendar.relative? text now with
  | some m => stamped (some m)
  | none => stamped (← Calendar.absolute? text none now)

/-- The moment named relative to now, or by the layout, or in a known format. -/
def fuzzyTime (now : Moment) (call : FilterCall) (value : Datum) : Except Fault Datum := do
  let text := value.asText
  match ← Calendar.relative? text now with
  | some m => stamped (some m)
  | none =>
    match ← Calendar.absolute? text (layout? call) now with
    | some m => stamped (some m)
    | none => if (layout? call).isSome then stamped (← Calendar.absolute? text none now) else stamped none

end MetaSearch.Filter
