import MetaSearch.Datum.Overlay
import MetaSearch.Fault

/-!
# Layers

Settings come in layers, each laid over the ones below it. A layer may write a setting in its section or under a
name of its own outside of it; laid over others it is written in sections throughout. What a layer says beyond
the known sections and settings is left out.
-/

namespace MetaSearch.Config

/-- The entries of a map. -/
abbrev Entries := List (Datum × Datum)

namespace Layer

/-- The known sections. -/
def sections : List String :=
  ["definitions", "http", "logging", "cache", "search", "flaresolverr", "indexers"]

/-- The names that settings have outside of their sections, with the section and the name in it. -/
def flatNames : List (String × String × String) :=
  [("definitions_dir", "definitions", "dir"),
   ("http_timeout_seconds", "http", "timeout_seconds"),
   ("http_follow_redirects", "http", "follow_redirects"),
   ("http_user_agent", "http", "user_agent"),
   ("log_level", "logging", "level"),
   ("log_format", "logging", "format"),
   ("cache_backend", "cache", "backend"),
   ("cache_dir", "cache", "dir"),
   ("cache_search_ttl_seconds", "cache", "search_ttl_seconds"),
   ("search_indexer_timeout_seconds", "search", "indexer_timeout_seconds"),
   ("search_max_concurrent_indexers", "search", "max_concurrent_indexers"),
   ("search_default_limit", "search", "default_limit"),
   ("search_max_limit", "search", "max_limit"),
   ("search_forward_categories", "search", "forward_categories")]

/-- The things that a datum counts up, as a list: the items of a list, the keys of a map, the characters of a text. -/
def listed : Datum → Except Fault (List Datum)
  | .list ds => .ok ds
  | .map entries => .ok (entries.map (·.1))
  | .text s => .ok (s.toList.map fun c => .text (String.ofList [c]))
  | .bytes b => .ok (b.map fun n => .int n.toNat)
  | _ => .error .wrongKind

/-- The endpoints of a layer as a list; whatever counts as nothing is none. -/
def endpoints (d : Datum) : Except Fault Datum :=
  if d.isTruthy then (listed d).map .list else .ok (.list [])

/-- The sections of a layer that are maps. -/
def pickSections (layer : Entries) : Entries :=
  sections.filterMap fun name =>
    match Datum.lookup? (.text name) layer with
    | some (.map entries) => some (.text name, .map entries)
    | _ => none

/-- A setting put into its section. -/
def put (section' name : String) (value : Datum) (layer : Entries) : Entries :=
  let entries := match Datum.lookup? (.text section') layer with
    | some (.map entries) => entries
    | _ => []
  Datum.insert (.text section') (.map (Datum.insert (.text name) value entries)) layer

/-- The settings that a layer has outside of sections, put into them. -/
def putFlat (layer : Entries) (sectioned : Entries) : Entries :=
  flatNames.foldl
    (fun sectioned (flat, section', name) =>
      match Datum.lookup? (.text flat) layer with
      | some value => put section' name value sectioned
      | none => sectioned)
    sectioned

/-- A layer written in sections throughout. -/
def sectioned (layer : Entries) : Except Fault Entries := do
  let general := ["app_name", "environment"].filterMap fun name =>
    (Datum.lookup? (.text name) layer).map fun d => (Datum.text name, d)
  let lists ← match Datum.lookup? (.text "torznab_endpoints") layer with
    | some d => (endpoints d).map fun d => [(Datum.text "torznab_endpoints", d)]
    | none => .ok []
  return putFlat layer (pickSections layer ++ general ++ lists)

/-- Layers laid over a lowest one, from the lowest to the highest. -/
def stacked (base : Entries) (layers : List Entries) : Entries :=
  layers.foldl Datum.overlayEntries base

end Layer

end MetaSearch.Config
