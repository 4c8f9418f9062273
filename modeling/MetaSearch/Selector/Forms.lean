import MetaSearch.Selector.Basic

/-!
# Links and forms

Conditions on links and the parts of forms that have names of their own, written out as conditions on names and
attributes.
-/

namespace MetaSearch.Selector

namespace Condition

/-- The element has an attribute. -/
def has (name : String) : Condition := .attribute name none false

/-- The element has an attribute with a value; values of `type` are compared without regard to case. -/
def hasValue (name value : String) : Condition := .attribute name (some (.equal, value)) (name == "type")

/-- The element lacks an attribute. -/
def lacks (name : String) : Condition := .noneOf [[has name]]

/-- The element lacks an attribute or has it with a value. -/
def lacksOrHasValue (name value : String) : Condition := .oneOf [[lacks name], [hasValue name value]]

/-- The element has one of some names. -/
def named (names : List String) : Condition := .oneOf (names.map fun n => [.tag n])

/-- The element is a field that takes one of some types of input. -/
def inputOf (types : List String) : Condition :=
  .oneOf (types.map fun t => [.tag "input", hasValue "type" t])

/-- The element is a part of a form that may be disabled by itself. -/
def control : Condition :=
  .oneOf [[.tag "input", .noneOf [[hasValue "type" "hidden"]]],
    [named ["button", "select", "textarea", "fieldset"]]]

/-- The element is a link. -/
def link : List (List Condition) := [[named ["a", "area"], has "href"]]

/-- The element is a box that is ticked or an option that is chosen. -/
def checked : List (List Condition) :=
  [[inputOf ["checkbox", "radio"], has "checked"], [.tag "option", has "selected"]]

/-- The element is a disabled part of a form, by itself or by what it lies in. -/
def disabled : List (List Condition) :=
  let set : List Condition := [.tag "fieldset", has "disabled"]
  [[.oneOf [[control], [named ["optgroup", "option"]]], has "disabled"],
   [.tag "option", .stands .child [.tag "optgroup", has "disabled"]],
   [control, .stands .child set],
   [control, .stands .inside
     [.noneOf [[.tag "legend", .place 0 1 true false []]], .stands .child set]]]

/-- The element is a part of a form that is not disabled. -/
def enabled : List (List Condition) :=
  [[.oneOf [[control], [named ["optgroup", "option"]]], .noneOf disabled]]

/-- The element is a field that must be filled. -/
def required : List (List Condition) := [[named ["input", "select", "textarea"], has "required"]]

/-- The element is a field that need not be filled. -/
def optional : List (List Condition) := [[named ["input", "select", "textarea"], lacks "required"]]

/-- The types of input that are lines of text. -/
def lineTypes : List String := ["text", "search", "url", "tel", "email", "password", "number"]

/-- The element is an empty field that shows what it is for. -/
def showsPlaceholder : List (List Condition) :=
  let shown : List Condition := [has "placeholder", .noneOf [[hasValue "placeholder" ""]]]
  [.oneOf [[.tag "input", lacksOrHasValue "type" ""], [inputOf lineTypes]] :: lacksOrHasValue "value" "" :: shown,
   .tag "textarea" :: .oneOf [[.empty]] :: shown]

/-- The element can be written in. -/
def writable : List (List Condition) :=
  let types := ["date", "datetime-local", "email", "month", "number", "password", "search", "tel", "text",
    "time", "url", "week"]
  [[.oneOf [[.tag "textarea"], [.tag "input", lacksOrHasValue "type" ""], [inputOf types]],
    .noneOf ([has "readonly"] :: disabled)],
   [.oneOf [[hasValue "contenteditable" ""], [.attribute "contenteditable" (some (.equal, "true")) true]]]]

/-- The element cannot be written in. -/
def unwritable : List (List Condition) := [[.noneOf writable]]

/-- The element is the first button of its form that sends it, or is ticked or chosen. -/
def preset : List (List Condition) :=
  checked ++ [[named ["button", "input"], hasValue "type" "submit", .stands .inside [.tag "form"]]]

/-- The element is a box, a choice or a measure without a state. -/
def undecided : List (List Condition) :=
  [[inputOf ["checkbox"], has "indeterminate"],
   [inputOf ["radio"], lacksOrHasValue "name" "", lacks "checked"],
   [.tag "progress", lacks "value"]]

end Condition

/-- The conditions that have a name of their own and no argument. -/
def namedConditions : List (String × List Condition) :=
  let first (sameName fromEnd : Bool) : Condition := .place 0 1 sameName fromEnd []
  let forms : List (String × List (List Condition)) :=
    [("link", Condition.link), ("any-link", Condition.link), ("checked", Condition.checked),
     ("default", Condition.preset), ("indeterminate", Condition.undecided),
     ("disabled", Condition.disabled), ("enabled", Condition.enabled), ("required", Condition.required),
     ("optional", Condition.optional), ("read-only", Condition.unwritable),
     ("read-write", Condition.writable), ("placeholder-shown", Condition.showsPlaceholder)]
  let silent := ["in-range", "out-of-range", "active", "autofill", "current", "focus", "focus-visible",
    "focus-within", "future", "host", "hover", "local-link", "past", "paused", "playing", "target",
    "target-within", "user-invalid", "visited"]
  [("root", [.root]), ("scope", [.scope]), ("empty", [.empty]), ("defined", [.standard]),
   ("first-child", [first false false]), ("last-child", [first false true]),
   ("first-of-type", [first true false]), ("last-of-type", [first true true]),
   ("only-child", [first false false, first false true]),
   ("only-of-type", [first true false, first true true])] ++
    forms.map (fun (name, alternatives) => (name, [.oneOf alternatives])) ++
    silent.map (fun name => (name, [.never]))

end MetaSearch.Selector
