import MetaSearch.Config.EnvFile
import MetaSearch.Config.Layer
import MetaSearch.Config.Reader
import MetaSearch.Text.Letter

/-!
# Settings from variables

The layer that the variables of an environment make. Three families of variables set things, each known by what its
names start with; letters of names count as the same in either case. An address of a solver alone switches the solver
on.
-/

namespace MetaSearch.Config

/-- The value of a variable, whatever the case of its name. -/
def valueOf? (vars : Variables) (name : String) : Option String :=
  (vars.reverse.find? fun v => Text.lower v.1 == Text.lower name).map (·.2)

/-- The home that `~` stands for in paths. -/
def homeOf? (vars : Variables) : Option String :=
  vars.reverse.lookup "HOME"

/-- What a variable may hold, as a setting. -/
abbrev VariableShape := Shape Datum

namespace VariableShape

/-- A text. -/
def text : VariableShape := fun d => (Shape.text d).map .text

/-- A word of a choice. -/
def choice (words : List String) : VariableShape := fun d =>
  (Shape.choice (words.map fun w => (w, w)) d).map .text

/-- A path; `home` is what `~` stands for. -/
def path (home : Option String) : VariableShape := fun d => (Shape.path home d).map .text

/-- A number. -/
def number : VariableShape := fun d => (Shape.number d).map .float

/-- A whole number. -/
def whole : VariableShape := fun d => (Shape.whole d).map .int

/-- A truth value. -/
def truth : VariableShape := fun d => (Shape.truth d).map .bool

end VariableShape

open VariableShape in
/-- The variables that set general things, named as those are outside of sections. -/
def generalVariables (home : Option String) : List (String × VariableShape) :=
  [("app_name", text), ("environment", choice (Stage.names.map (·.1))), ("definitions_dir", path home),
   ("http_timeout_seconds", number), ("http_follow_redirects", truth), ("http_user_agent", text),
   ("log_level", choice (LogLevel.names.map (·.1))), ("log_format", choice (LogFormat.names.map (·.1))),
   ("search_indexer_timeout_seconds", number), ("search_max_concurrent_indexers", whole),
   ("search_default_limit", whole), ("search_max_limit", whole), ("search_forward_categories", truth)]

open VariableShape in
/-- The variables that set how answers are kept. -/
def cacheVariables : List (String × VariableShape) :=
  [("backend", choice (Cache.Backend.names.map (·.1))), ("dir", text), ("search_ttl_seconds", whole),
   ("max_entries", whole), ("max_concurrent", whole)]

open VariableShape in
/-- The variables that set the solver of challenges. -/
def solverVariables : List (String × VariableShape) :=
  [("enabled", truth), ("url", text), ("max_timeout_ms", whole)]

/-- The names of all variables that set something. -/
def variableNames : List String :=
  (generalVariables none).map ("TRAWLARR_" ++ ·.1) ++ cacheVariables.map ("CACHE_" ++ ·.1) ++
    solverVariables.map ("FLARESOLVERR_" ++ ·.1)

/-- What the variables of a family set, under the names without the family's start. -/
def family (vars : Variables) (start : String) : List (String × VariableShape) → Shaped (List (String × Datum))
  | [] => .good []
  | (name, shape) :: rest =>
    let here : Shaped (List (String × Datum)) :=
      match valueOf? vars (start ++ name) with
      | some value => ((shape (.text value)).under name).map fun d => [(name, d)]
      | none => .good []
    (here.both (family vars start rest)).map fun (here, more) => here ++ more

/-- What is set for the solver; it is on where an address is set and nothing else is said. -/
def switchedOn (settings : List (String × Datum)) : List (String × Datum) :=
  if ((settings.lookup "url").map Datum.isTruthy).getD false && (settings.lookup "enabled").isNone then
    settings ++ [("enabled", .bool true)]
  else settings

/-- A section of a layer, where it says something. -/
def sectionEntries (name : String) (settings : List (String × Datum)) : Entries :=
  if settings.isEmpty then [] else [(.text name, .object settings)]

/-- The layer of the variables of an environment. The families are read one after the other, and only a family
without complaints is followed by the next. -/
def variableLayer (vars : Variables) : Shaped Entries :=
  (family vars "TRAWLARR_" (generalVariables (homeOf? vars))).andThen fun general =>
    (family vars "CACHE_" cacheVariables).andThen fun cache =>
      (family vars "FLARESOLVERR_" solverVariables).andThen fun solver =>
        match Layer.sectioned (general.map fun (name, d) => (.text name, d)) with
        | .error f => .broken f
        | .ok entries =>
          .good (Layer.stacked entries
            [sectionEntries "cache" cache, sectionEntries "flaresolverr" (switchedOn solver)])

end MetaSearch.Config
