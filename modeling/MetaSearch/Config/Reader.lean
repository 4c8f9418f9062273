import MetaSearch.Config.Basic
import MetaSearch.Text.PathName

/-!
# Reading configurations

A configuration is written as a document in sections; some settings may also be written outside of their section,
under a name of their own. `Config.shape` reads such a document.
-/

namespace MetaSearch

namespace Shape

variable {α : Type}

/-- What keys lead to, through maps. -/
def reach? (entries : List (Datum × Datum)) : List String → Option Datum
  | [] => none
  | [key] => Datum.lookup? (.text key) entries
  | key :: rest =>
    match Datum.lookup? (.text key) entries with
    | some (.map inner) => reach? inner rest
    | _ => none

/-- The setting at the first of some places that is there; the default where none is. -/
def setting (entries : List (Datum × Datum)) (places : List (List String)) (shape : Shape α) (fallback : α) :
    Shaped α :=
  match places.findSome? fun place => (reach? entries place).map (place, ·) with
  | some (place, d) => place.foldr Shaped.under (shape d)
  | none => .good fallback

/-- Something of a shape that also meets a condition, or else a complaint. -/
def meeting (condition : α → Bool) (reason : String) (shape : Shape α) : Shape α := fun d =>
  (shape d).andThen fun a => if condition a then .good a else .complain ("Value error, " ++ reason)

/-- A path in its written form; `home` is what `~` stands for. Anything but a text breaks the reading off. -/
def path (home : Option String) : Shape String
  | .text s =>
    match PathName.ofText home s with
    | .ok s => .good s
    | .error f => .broken f
  | _ => .broken .wrongKind

end Shape

namespace Config

open Shape in
/-- The section on the keeping of answers. -/
def Keeping.shape (home : Option String) : Shape Keeping :=
  record "CacheConfig" fun entries =>
    (fun backend directory lifetime capacity concurrent => { backend, directory, lifetime, capacity, concurrent }) <$>
      field entries "backend" (choice Cache.Backend.names) .memory <*>
      setting entries [["dir"], ["directory"]] (path home) ".cache/trawlarr" <*>
      field entries "search_ttl_seconds" (meeting (0 ≤ ·) "search_ttl_seconds must be >= 0" whole) 120 <*>
      field entries "max_entries" (meeting (1 ≤ ·) "must be >= 1" whole) 100 <*>
      field entries "max_concurrent" (meeting (1 ≤ ·) "must be >= 1" whole) 10

/-- Whether a number is not zero or below; the undefined number is not. -/
def isNotBelowOrZero (x : Binary64) : Bool :=
  !(x.isZero || x.lt .zero)

open Shape in
/-- The section on searches. -/
def Searching.shape : Shape Searching :=
  meeting (fun s => 1 ≤ s.defaultLimit && s.defaultLimit ≤ s.maxLimit)
      "default_limit must be between 1 and max_limit" <|
    meeting (fun s => 1 ≤ s.concurrent) "max_concurrent_indexers must be >= 1" <|
      record "SearchConfig" fun entries =>
        (fun deadline concurrent defaultLimit maxLimit forwards =>
          { deadline, concurrent, defaultLimit, maxLimit, forwards }) <$>
          field entries "indexer_timeout_seconds"
            (meeting isNotBelowOrZero "indexer_timeout_seconds must be > 0" number) halfMinute <*>
          field entries "max_concurrent_indexers" whole 10 <*>
          field entries "default_limit" whole 100 <*>
          field entries "max_limit" whole 1000 <*>
          field entries "forward_categories" truth false

open Shape in
/-- The section on the solver of challenges. -/
def Solving.shape : Shape Solving :=
  meeting (fun s => !s.enabled || !s.url.isEmpty) "flaresolverr.url is required when flaresolverr is enabled" <|
    record "FlareSolverrConfig" fun entries =>
      (fun enabled url patience => { enabled, url, patience }) <$>
        field entries "enabled" truth false <*>
        field entries "url" text "" <*>
        field entries "max_timeout_ms" whole 60000

open Shape in
/-- What is set for one site. -/
def Override.shape : Shape Override :=
  record "IndexerOverride" fun entries =>
    (fun enabled priority settings => { enabled, priority, settings }) <$>
      field entries "enabled" truth true <*>
      field entries "priority" (orNull whole) none <*>
      field entries "settings" (table text anything) []

/-- What is set for sites; whatever counts as nothing sets nothing. -/
def overridesShape : Shape (List (String × Override)) := fun d =>
  if d.isTruthy then Shape.table Shape.text Override.shape d else .good []

open Shape in
/-- A configuration, read from a document; `home` is what `~` stands for in paths. Where no format of the log is set,
the stage calls for one. -/
def shape (home : Option String) : Shape Config :=
  record "AppConfig" fun entries =>
    (fun appName (stage : Stage) definitionsDirectory requestTimeout followsRedirects userAgent logLevel
        (logFormat : Option LogFormat) cache search solver overrides endpoints =>
      { appName, stage, definitionsDirectory, requestTimeout, followsRedirects, userAgent, logLevel
        logFormat := logFormat.getD stage.logFormat, cache, search, solver, overrides, endpoints }) <$>
      field entries "app_name" text "trawlarr" <*>
      field entries "environment" (choice Stage.names) .dev <*>
      setting entries [["definitions_dir"], ["definitions", "dir"]] (path home) "definitions" <*>
      setting entries [["http_timeout_seconds"], ["http", "timeout_seconds"]]
        (meeting isNotBelowOrZero "http_timeout_seconds must be > 0" number) halfMinute <*>
      setting entries [["http_follow_redirects"], ["http", "follow_redirects"]] truth true <*>
      setting entries [["http_user_agent"], ["http", "user_agent"]] text "Trawlarr/0.1.0" <*>
      setting entries [["log_level"], ["logging", "level"]] (choice LogLevel.names) .info <*>
      setting entries [["log_format"], ["logging", "format"]] (orNull (choice LogFormat.names)) none <*>
      field entries "cache" (Keeping.shape home) {} <*>
      field entries "search" Searching.shape {} <*>
      field entries "flaresolverr" Solving.shape {} <*>
      field entries "indexers" overridesShape [] <*>
      field entries "torznab_endpoints" (list Endpoint.shape) []

end Config

end MetaSearch
