import MetaSearch.Extract.Document
import MetaSearch.Selector.Matching
import MetaSearch.Selector.Reader

/-!
# Reading pages

Answers in hypertext are cut by selectors: one names the rows, others the elements of a row that hold its fields.
Where a row goes on in the rows after it, their contents are moved into it.
-/

namespace MetaSearch.Extract

open Markup

/-- The page with the contents of the next `after` rows moved into each row that is kept, and the rows kept;
`waiting` counts the rows still to come that belong to the last one kept. -/
def mergeFollowing (after : Nat) (page : Page) (kept : List Nat) (waiting : Nat) : List Nat → Page × List Nat
  | [] => (page, kept.reverse)
  | row :: rows =>
    match waiting, kept with
    | waiting + 1, last :: _ => mergeFollowing after (page.absorb last row) kept waiting rows
    | _, _ => mergeFollowing after page (row :: kept) after rows

/-- The rows of a page, and the page once they are merged as the rule says. -/
def pageRows (page : Page) (rule : RowRule) (env : Environment) : Except Trouble (Page × List Nat) :=
  let selector := Text.strip (Template.evaluate env rule.selector id)
  if selector.isEmpty then .ok (page, [])
  else
    match Selector.read? selector with
    | none => giveUp (.unreadable "invalid rows selector")
    | some selector =>
      let rows := Selector.select page 0 selector
      if rule.after > 0 then .ok (mergeFollowing rule.after.toNat page [] 0 rows) else .ok (page, rows)

/-- The element of a row that a selector names; the row itself for an empty selector. -/
def pageElement? (page : Page) (row : Nat) (selector : String) (env : Environment) :
    Except Trouble (Option Nat) :=
  let selector := Text.strip (Template.evaluate env selector id)
  if selector.isEmpty then .ok (some row)
  else
    match Selector.read? selector with
    | none => giveUp (.missed "invalid selector")
    | some selector => .ok (Selector.select page row selector).head?

/-- Whether a case applies to an element: its selector names the element or something in it. -/
def caseMatches (page : Page) (element : Option Nat) (selector : String) : Bool :=
  selector == "*" ||
    match element, Selector.read? selector with
    | some id, some selector =>
      !(Selector.select page id selector).isEmpty || Selector.names page id selector
    | _, _ => false

/-- The text of an element without blanks around it, and without what a selector names in it. -/
def pageText (page : Page) (id : Nat) (remove : Option String) : Except Trouble String :=
  match remove.filter fun s => !s.isEmpty with
  | none => .ok (Text.strip (page.text id))
  | some selector =>
    match Selector.read? selector with
    | none => .error (.fault .badSelector)
    | some selector =>
      let alone : Page := ⟨page.parts.modify id fun p => { p with parent := none }⟩
      let rest := (Selector.select alone id selector).foldl Page.detach alone
      .ok (Text.strip (rest.text id))

/-- The value of an attribute of an element; a web address is made absolute. -/
def pageAttribute (page : Page) (id : Nat) (name base : String) : Except Trouble Datum := do
  let value := Text.strip ((page.attribute? id name).getD "")
  if !value.isEmpty && addressAttributes.contains name then
    return .text (← orTrouble (Reference.absolute value base))
  else return .text value

/-- The value that a rule finds in a row, before the default and the filters. -/
def pageFound (page : Page) (row : Nat) (rule : FieldRule) (base : String) (env : Environment) :
    Except Trouble Datum := do
  match rule.text with
  | some template => return .text (Template.evaluate env template id)
  | none =>
    let element ←
      match rule.selector.filter fun s => !s.isEmpty with
      | some selector => pageElement? page row selector env
      | none => pure (some row)
    if !rule.cases.isEmpty then
      match rule.cases.find? fun (selector, _) => caseMatches page element selector with
      | some (_, template) => return .text (Template.evaluate env template id)
      | none =>
        if rule.optional then return .null
        else giveUp (.missed ("no case selector matched for field " ++ Text.quoted rule.name))
    else
      match element with
      | none => return .null
      | some id =>
        match rule.attributeName.filter fun s => !s.isEmpty with
        | some name => pageAttribute page id name base
        | none => return .text (← pageText page id rule.remove)

/-- The value of a field in a row. -/
def pageField (now : Moment) (base : String) (page : Page) (row : Nat) (rule : FieldRule)
    (env : Environment) : Except Trouble Datum :=
  (pageFound page row rule base env).map (finish now rule env)

end MetaSearch.Extract
