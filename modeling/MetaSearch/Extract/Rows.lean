import MetaSearch.Filter.Chain
import MetaSearch.Release.Row
import MetaSearch.Search.Setback
import MetaSearch.Site.Basic
import MetaSearch.Template.Evaluate

/-!
# Reading rows

However an answer is cut, its rows are read alike: field after field in the order of the definition, each value
at hand to the templates of the fields after it. `readRow` reads one row, `collect` all rows of an answer.
-/

namespace MetaSearch.Extract

/-- Whether a value says nothing: null or an empty text. -/
def isVoid : Datum → Bool
  | .null => true
  | .text s => s.isEmpty
  | _ => false

/-- A found value as the rule of its field leaves it: the default in place of nothing, then the filters. -/
def finish (now : Moment) (rule : FieldRule) (env : Environment) (value : Datum) : Datum :=
  let value :=
    match rule.default with
    | some template => if isVoid value then .text (Template.evaluate env template id) else value
    | none => value
  if value.isNull then value else applyFilters now rule.filters value

/-- The row and the environment after one more field, read by `extract`. -/
def readField (extract : FieldRule → Environment → Except Trouble Datum) (rule : FieldRule)
    (row : Row) (env : Environment) : Except Trouble (Row × Environment) :=
  match extract rule env with
  | .error (.setback (.missed _)) =>
    let row := if rule.optional || row.any (·.1 == rule.name) then row else row.put rule.name .null
    .ok (row, env.setResult rule.name .null)
  | .error e => .error e
  | .ok value =>
    let existing := row.value rule.name
    if rule.optional && isVoid value then .ok (row, env.setResult rule.name .null)
    else if rule.append && !isVoid existing then
      if isVoid value then .ok (row, env)
      else
        let joined := Datum.text (Template.render existing ++ Template.render value)
        .ok (row.put rule.name joined, env.setResult rule.name joined)
    else .ok (row.put rule.name value, env.setResult rule.name value)

/-- The row and the environment after the fields of a definition, begun with those given. -/
def readFields (extract : FieldRule → Environment → Except Trouble Datum) :
    List FieldRule → Row → Environment → Except Trouble (Row × Environment)
  | [], row, env => .ok (row, env)
  | rule :: rules, row, env => do
    let (row, env) ← readField extract rule row env
    readFields extract rules row env

/-- The row that the fields of a definition make up. -/
def readRow (extract : FieldRule → Environment → Except Trouble Datum) (rules : List FieldRule)
    (env : Environment) : Except Trouble Row :=
  (readFields extract rules [] env).map (·.1)

/-- Whether a title holds every word of the keywords, without regard to case. -/
def titleMatches (title : Datum) (keywords : String) : Bool :=
  let title := Text.fold (Template.render title)
  (Text.words (Text.fold keywords)).all (Text.contains title)

/-- The rows that a filter on rows leaves. Only the one that matches titles with the keywords changes
anything. -/
def filterRows (keywords : String) (rows : List Row) (call : FilterCall) : List Row :=
  if Text.lower (Text.strip call.name) == "andmatch" then
    rows.filter fun row => titleMatches (row.value "title") keywords
  else rows

/-- The rows read from what an answer was cut into; one that cannot be read is passed over. -/
def collect {Cut : Type} (cuts : List Cut)
    (extract : Cut → FieldRule → Environment → Except Trouble Datum) (rules : List FieldRule)
    (filters : List FilterCall) (env : Environment) (keywords : String) : List Row :=
  let rows := cuts.filterMap fun cut => (readRow (extract cut) rules env).toOption
  filters.foldl (filterRows keywords) rows

end MetaSearch.Extract
