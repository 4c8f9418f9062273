import MetaSearch.Datum.Printed
import MetaSearch.Fault
import MetaSearch.Number.Numeral

/-!
# Filters by name

A filter is called by a name with arguments. Names are matched without case and blanks around them; some have
other spellings; a name that no filter has stands for the filter that changes nothing.
-/

namespace MetaSearch

/-- A call of a filter: its name as written and its arguments. -/
structure FilterCall where
  name : String
  args : List Datum := []
  deriving Repr, Inhabited

/-- The filters. -/
inductive FilterKind where
  | append | prepend | replace | reReplace | trim | split | join | toLower | toUpper
  | urlEncode | urlDecode | htmlEncode | htmlDecode | diacritics | validate | strDump | regexp | queryString
  | dateParse | timeAgo | fuzzyTime | int | float | andMatch | identity
  deriving DecidableEq, Repr, Inhabited

namespace FilterKind

/-- The proper names of the filters. -/
def names : List (String × FilterKind) :=
  [("append", .append), ("prepend", .prepend), ("replace", .replace), ("re_replace", .reReplace),
   ("trim", .trim), ("split", .split), ("join", .join), ("tolower", .toLower), ("toupper", .toUpper),
   ("urlencode", .urlEncode), ("urldecode", .urlDecode), ("htmlencode", .htmlEncode),
   ("htmldecode", .htmlDecode), ("diacritics", .diacritics), ("validate", .validate), ("strdump", .strDump),
   ("regexp", .regexp), ("querystring", .queryString), ("dateparse", .dateParse), ("timeago", .timeAgo),
   ("fuzzytime", .fuzzyTime), ("int", .int), ("float", .float), ("andmatch", .andMatch),
   ("identity", .identity)]

/-- Other spellings in use. -/
def aliases : List (String × FilterKind) :=
  [("lower", .toLower), ("upper", .toUpper), ("re-replace", .reReplace), ("regex", .regexp),
   ("parseint", .int), ("parsefloat", .float), ("timeparse", .dateParse)]

/-- The filter that a name stands for. -/
def ofName (name : String) : FilterKind :=
  let key := Text.lower (Text.strip name)
  ((names ++ aliases).find? (·.1 == key)).elim .identity (·.2)

/-- The proper name of a filter. -/
def name (k : FilterKind) : String :=
  (names.find? (·.2 == k)).elim "identity" (·.1)

theorem ofName_name (k : FilterKind) : ofName k.name = k := by
  cases k <;> decide +kernel

end FilterKind

namespace Datum

mutual

/-- The text of a datum as filters take it: nothing for null, the items of a list with commas between. -/
def asText : Datum → String
  | null => ""
  | list xs => ",".intercalate (asTexts xs)
  | other => other.printed

/-- The texts of the items of a list. -/
def asTexts : List Datum → List String
  | [] => []
  | x :: xs => x.asText :: asTexts xs

end

/-- The whole number that a datum converts to. -/
def toInt : Datum → Except Fault Int
  | bool b => .ok (if b then 1 else 0)
  | int i => .ok i
  | float .nan => .error .notANumber
  | float x => (x.truncate?).elim (.error .infiniteNumber) .ok
  | text s => (Numeral.int? s).elim (.error .notANumber) .ok
  | _ => .error .wrongKind

end Datum

/-- The argument at a position, where there is one that is not null. -/
def FilterCall.arg? (call : FilterCall) (index : Nat) : Option Datum :=
  match call.args[index]? with
  | some .null => none
  | other => other

/-- The text of the argument at a position, or a default. -/
def FilterCall.argText (call : FilterCall) (index : Nat) (fallback : String) : String :=
  (call.arg? index).elim fallback Datum.asText

end MetaSearch
