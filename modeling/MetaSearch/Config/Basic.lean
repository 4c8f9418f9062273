import MetaSearch.Cache.Store
import MetaSearch.Search.Indexer

/-!
# Configurations

Everything that can be set, section by section, with what holds where nothing is set.
-/

namespace MetaSearch

namespace Config

/-- What the program runs for. -/
inductive Stage where
  | dev | test | prod
  deriving DecidableEq, Repr, Inhabited

/-- The names of the stages. -/
def Stage.names : List (String × Stage) :=
  [("dev", .dev), ("test", .test), ("prod", .prod)]

/-- The name of a stage. -/
def Stage.name : Stage → String
  | .dev => "dev"
  | .test => "test"
  | .prod => "prod"

/-- How weighty an event must be to be logged. -/
inductive LogLevel where
  | debug | info | warning | error
  deriving DecidableEq, Repr, Inhabited

/-- The names of the levels. -/
def LogLevel.names : List (String × LogLevel) :=
  [("DEBUG", .debug), ("INFO", .info), ("WARNING", .warning), ("ERROR", .error)]

/-- The name of a level. -/
def LogLevel.name : LogLevel → String
  | .debug => "DEBUG"
  | .info => "INFO"
  | .warning => "WARNING"
  | .error => "ERROR"

/-- How events are written. -/
inductive LogFormat where
  | json | console
  deriving DecidableEq, Repr, Inhabited

/-- The names of the formats. -/
def LogFormat.names : List (String × LogFormat) :=
  [("json", .json), ("console", .console)]

/-- The name of a format. -/
def LogFormat.name : LogFormat → String
  | .json => "json"
  | .console => "console"

/-- The format that a stage calls for. -/
def Stage.logFormat : Stage → LogFormat
  | .prod => .json
  | _ => .console

/-- Half a minute. -/
def halfMinute : Binary64 := .ofRatio false 30 1

/-- How answers are kept. -/
structure Keeping where
  backend : Cache.Backend := .memory
  directory : String := ".cache/trawlarr"
  /-- How many seconds answers last; none are kept where this is zero. -/
  lifetime : Int := 120
  /-- How many answers are kept in memory at most. -/
  capacity : Int := 100
  /-- How many operations on the disk run at a time. -/
  concurrent : Int := 10
  deriving DecidableEq, Repr, Inhabited

/-- How searches are run. -/
structure Searching where
  /-- How many seconds one indexer has for one search. -/
  deadline : Binary64 := halfMinute
  /-- How many indexers are searched at a time. -/
  concurrent : Int := 10
  defaultLimit : Int := 100
  maxLimit : Int := 1000
  /-- Whether wanted categories are sent along. -/
  forwards : Bool := false
  deriving DecidableEq, Repr, Inhabited

/-- The service that solves challenges. -/
structure Solving where
  enabled : Bool := false
  url : String := ""
  /-- How many milliseconds the service may take. -/
  patience : Int := 60000
  deriving DecidableEq, Repr, Inhabited

/-- What is set for one defined site. -/
structure Override where
  enabled : Bool := true
  priority : Option Int := none
  settings : List (String × Datum) := []
  deriving Repr, Inhabited

end Config

/-- Everything that is set. -/
structure Config where
  appName : String := "trawlarr"
  stage : Config.Stage := .dev
  definitionsDirectory : String := "definitions"
  /-- How many seconds one request may take. -/
  requestTimeout : Binary64 := Config.halfMinute
  followsRedirects : Bool := true
  userAgent : String := "Trawlarr/0.1.0"
  logLevel : Config.LogLevel := .info
  logFormat : Config.LogFormat := .console
  cache : Config.Keeping := {}
  search : Config.Searching := {}
  solver : Config.Solving := {}
  overrides : List (String × Config.Override) := []
  endpoints : List Endpoint := []
  deriving Repr, Inhabited

/-- What is set for a defined site. -/
def Config.override (c : Config) (id : String) : Config.Override :=
  (c.overrides.lookup id).getD {}

/-! ## Configurations as documents

A configuration written out in sections, in the form in which it is read.
-/

/-- A number that may be absent. -/
def Config.optionalInt : Option Int → Datum
  | some i => .int i
  | none => .null

/-- What is set for one site, as a document. -/
def Config.Override.document (o : Config.Override) : Datum :=
  .object [("enabled", .bool o.enabled), ("priority", Config.optionalInt o.priority),
    ("settings", .object o.settings)]

/-- An endpoint as a document. -/
def Endpoint.document (e : Endpoint) : Datum :=
  .object
    [("id", .text e.id), ("name", .text e.name), ("url", .text e.url),
     ("api_key", match e.apiKey with
      | some key => .text key
      | none => .null),
     ("priority", .int e.priority), ("categories", .list (e.categories.map .int)), ("enabled", .bool e.enabled)]

namespace Config

/-- The section on the keeping of answers. -/
def Keeping.document (k : Keeping) : Datum :=
  .object [("backend", .text k.backend.name), ("dir", .text k.directory),
    ("search_ttl_seconds", .int k.lifetime), ("max_entries", .int k.capacity), ("max_concurrent", .int k.concurrent)]

/-- The section on searches. -/
def Searching.document (s : Searching) : Datum :=
  .object [("indexer_timeout_seconds", .float s.deadline), ("max_concurrent_indexers", .int s.concurrent),
    ("default_limit", .int s.defaultLimit), ("max_limit", .int s.maxLimit), ("forward_categories", .bool s.forwards)]

/-- The section on the solver of challenges. -/
def Solving.document (s : Solving) : Datum :=
  .object [("enabled", .bool s.enabled), ("url", .text s.url), ("max_timeout_ms", .int s.patience)]

/-- A configuration as a document. -/
def document (c : Config) : Datum :=
  .object
    [("app_name", .text c.appName), ("environment", .text c.stage.name),
     ("definitions", .object [("dir", .text c.definitionsDirectory)]),
     ("http", .object [("timeout_seconds", .float c.requestTimeout), ("follow_redirects", .bool c.followsRedirects),
        ("user_agent", .text c.userAgent)]),
     ("logging", .object [("level", .text c.logLevel.name), ("format", .text c.logFormat.name)]),
     ("cache", c.cache.document), ("search", c.search.document), ("flaresolverr", c.solver.document),
     ("indexers", .object (c.overrides.map fun (id, o) => (id, o.document))),
     ("torznab_endpoints", .list (c.endpoints.map Endpoint.document))]

end Config

end MetaSearch
