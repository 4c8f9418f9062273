import MetaSearch.Datum.Printed
import MetaSearch.Text.Basic

/-!
# Template environments

The variables that templates refer to, in the order in which they were first set. A path with points names a
variable of that very name, or else walks into the maps of the variable that its first part names.
-/

namespace MetaSearch

/-- Variables with their values. -/
structure Environment where
  entries : List (String × Datum) := []
  deriving Repr, Inhabited

namespace Environment

/-- The environment with a variable set: in place where it is there, else at the end. -/
def put (env : Environment) (name : String) (value : Datum) : Environment :=
  ⟨go env.entries⟩
where
  go : List (String × Datum) → List (String × Datum)
    | [] => [(name, value)]
    | (n, v) :: rest => if n = name then (n, value) :: rest else (n, v) :: go rest

/-- The value of a variable of that very name. -/
def get? (env : Environment) (name : String) : Option Datum :=
  (env.entries.find? (·.1 == name)).map (·.2)

/-- A name without points in front. -/
def bare (name : String) : String :=
  String.ofList (name.toList.dropWhile (· == '.'))

/-- An environment of variables, with the settings under `Config`. -/
def ofValues (values : List (String × Datum)) (config : List (String × Datum)) : Environment :=
  let env := values.foldl (fun env (name, value) => env.put name value) {}
  config.foldl (fun env (name, value) => env.put ("Config." ++ name) value) env

/-- The environment of a search: the keywords, the site's categories, the query, the year and the settings. -/
def forSearch (year : Nat) (keywords : String) (config : List (String × Datum)) (categories : List String)
    (query : List (Datum × Datum)) : Environment :=
  let base := [(Datum.text "Keywords", Datum.text keywords), (.text "Q", .text keywords)]
  ofValues
    [("Keywords", .text keywords), ("Categories", .texts categories),
     ("Category", .text (categories.headD "")),
     ("Query", .map (query.foldl (fun entries (k, v) => Datum.insert k v entries) base)),
     ("Today", .object [("Year", .text (toString year))])]
    config

/-- The environment with a variable set, points in front of its name passed over. -/
def set (env : Environment) (name : String) (value : Datum) : Environment :=
  env.put (bare name) value

/-- The environment with a field of the current row set. -/
def setResult (env : Environment) (field : String) (value : Datum) : Environment :=
  env.put ("Result." ++ field) value

/-- The value that the parts of a path lead to inside a value. -/
def walk : Datum → List String → Option Datum
  | d, [] => some d
  | d, part :: rest => (d.get? part).bind (walk · rest)

/-- The value that a path names. -/
def lookup? (env : Environment) (path : String) : Option Datum :=
  let key := bare path
  if key.isEmpty then none
  else
    match env.get? key with
    | some v => some v
    | none =>
      match Text.cutAt? "." key with
      | none => none
      | some (head, rest) =>
        match env.get? head with
        | none => none
        | some v => if rest.isEmpty then some v else walk v (Text.split "." rest)

/-- The value that a path names; an empty text where there is none. -/
def resolve (env : Environment) (path : String) : Datum :=
  (env.lookup? path).getD (.text "")

/-- Whether a path names a value. -/
def has (env : Environment) (path : String) : Bool :=
  (env.lookup? path).isSome

theorem get?_put_self (env : Environment) (name : String) (value : Datum) :
    (env.put name value).get? name = some value := by
  obtain ⟨entries⟩ := env
  simp only [put, get?]
  induction entries with
  | nil => simp [put.go]
  | cons entry rest ih =>
    obtain ⟨n, v⟩ := entry
    by_cases h : n = name <;> simp [put.go, h, ih]

theorem get?_put_of_ne (env : Environment) {name other : String} (h : other ≠ name) (value : Datum) :
    (env.put name value).get? other = env.get? other := by
  obtain ⟨entries⟩ := env
  simp only [put, get?]
  induction entries with
  | nil => simp [put.go, Ne.symm h]
  | cons entry rest ih =>
    obtain ⟨n, v⟩ := entry
    by_cases hn : n = name
    · subst hn
      simp [put.go, Ne.symm h]
    · by_cases ho : n = other <;> simp_all [put.go]

end Environment

end MetaSearch
