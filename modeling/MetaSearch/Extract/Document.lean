import MetaSearch.Address.Reference
import MetaSearch.Datum.Json
import MetaSearch.Extract.Path
import MetaSearch.Extract.Rows

/-!
# Reading documents

Answers in a data format are cut by paths: one leads to the list of rows, others from a row to its fields.
-/

namespace MetaSearch.Extract

/-- The attributes that hold web addresses. -/
def addressAttributes : List String := ["href", "src"]

/-- The document that a body holds. -/
def document (body : String) : Except Trouble Datum :=
  match Json.parse? body with
  | some d => .ok d
  | none => giveUp (.unreadable "invalid JSON body")

/-- The rows of a document: the items of the list at the rule's path; the whole document where it names that. -/
def documentRows (d : Datum) (rule : RowRule) (env : Environment) : Except Trouble (List Datum) := do
  let path := Text.strip (Template.evaluate env rule.selector id)
  if path.isEmpty || path == "$" then
    match d with
    | .list rows => return rows
    | _ => return [d]
  else
    match ← orTrouble (DocumentPath.resolve? d path) with
    | some (.list rows) => return rows
    | _ => return []

/-- The text that the cases of a rule give for a value. -/
def documentCase (rule : FieldRule) (env : Environment) (value : Datum) : Except Trouble Datum :=
  let shown := Template.render value
  match rule.cases.find? fun (key, _) => key == "*" || key == shown with
  | some (_, template) => .ok (.text (Template.evaluate env template id))
  | none =>
    if rule.optional then .ok .null
    else giveUp (.missed ("no case value matched for field " ++ Text.quoted rule.name))

/-- The value that a rule finds in a row, before the default and the filters. -/
def documentFound (row : Datum) (rule : FieldRule) (base : String) (env : Environment) :
    Except Trouble Datum := do
  match rule.text with
  | some template => return .text (Template.evaluate env template id)
  | none =>
    match rule.selector.filter fun s => !s.isEmpty with
    | none => return .null
    | some selector =>
      let value := (← orTrouble (DocumentPath.resolve? row (Template.evaluate env selector id))).getD .null
      if !rule.cases.isEmpty then documentCase rule env value
      else
        match value with
        | .text s =>
          if !s.isEmpty && rule.attributeName.any addressAttributes.contains then
            return .text (← orTrouble (Reference.absolute s base))
          else return value
        | _ => return value

/-- The value of a field in a row. -/
def documentField (now : Moment) (base : String) (row : Datum) (rule : FieldRule) (env : Environment) :
    Except Trouble Datum :=
  (documentFound row rule base env).map (finish now rule env)

end MetaSearch.Extract
