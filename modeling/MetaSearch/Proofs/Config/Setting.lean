import MetaSearch.Config.Reader
import MetaSearch.Proofs.Config.Sectioned
import MetaSearch.Proofs.Shape.Read

/-!
# Settings

A setting has a place in a document in sections, may be spelled otherwise in a layer, and is of a kind, with a shape in which
it is read and a fallback.  `Setting.reads` is what a configuration that is read has for each of them: what its place, or
another place that counts for it, holds.
-/

namespace MetaSearch

open Datum Shaped

namespace Shape

variable {α : Type}

theorem reach?_eq_at? (entries : List (Datum × Datum)) {place : List String} (h : place ≠ []) :
    reach? entries place = at? (.map entries) place := by
  induction place generalizing entries with
  | nil => exact absurd rfl h
  | cons t rest ih =>
      rw [at?_map]
      cases rest with
      | nil =>
          rw [reach?, ← at?_map, at?_singleton]
      | cons u rest =>
          simp only [reach?]
          cases hd : lookup? (.text t) entries with
          | none => rfl
          | some d =>
              cases d with
              | map inner => exact ih inner (List.cons_ne_nil u rest)
              | _ => rfl

/-- A setting is read at the first of its places that is there. -/
theorem setting_eq_good_iff {entries : List (Datum × Datum)} {places : List (List String)} (hplaces : [] ∉ places)
    {shape : Shape α} {fallback a : α} :
    setting entries places shape fallback = .good a ↔
      orDefault shape fallback (places.findSome? (at? (.map entries))) = .good a := by
  induction places with
  | nil => rfl
  | cons place places ih =>
      obtain ⟨hplace, hrest⟩ := List.forall_mem_cons.mp fun p (hp : p ∈ place :: places) => ne_of_mem_of_not_mem hp hplaces
      rw [setting, List.findSome?_cons, List.findSome?_cons, reach?_eq_at? entries hplace]
      cases at? (.map entries) place with
      | none => exact ih fun hmem => hrest [] hmem rfl
      | some d => exact foldr_under_eq_good_iff

theorem meeting_eq_good_iff {condition : α → Bool} {reason : String} {shape : Shape α} {d : Datum} {a : α} :
    meeting condition reason shape d = .good a ↔ shape d = .good a ∧ condition a = true := by
  rw [meeting, andThen_eq_good_iff]
  constructor
  · rintro ⟨b, hb, hcondition⟩
    split at hcondition
    · exact good.inj hcondition ▸ ⟨hb, ‹_›⟩
    · cases hcondition
  · rintro ⟨ha, hcondition⟩
    exact ⟨a, ha, if_pos hcondition⟩

/-- A path is read from a text. -/
theorem path_eq_good_iff {home : Option String} {d : Datum} {p : String} :
    path home d = .good p ↔ ∃ s, d = .text s ∧ PathName.ofText home s = .ok p := by
  cases d with
  | text s =>
      rw [path]
      cases hp : PathName.ofText home s <;> simp [hp]
  | _ => simp [path]

/-- What is read in a shape that no map has is no map. -/
theorem noMap_of_orDefault {shape : Shape α} (hshape : ∀ entries a, shape (.map entries) ≠ .good a) {fallback a : α}
    {d : Option Datum} (h : orDefault shape fallback d = .good a) : NoMap d := by
  rintro e rfl
  cases e with
  | map entries => exact absurd h (hshape entries a)
  | _ => rfl

end Shape

namespace Config

open Shape

/-- The patience of half a minute, the default, is allowed. -/
theorem isNotBelowOrZero_halfMinute : isNotBelowOrZero halfMinute = true := by
  decide +kernel

/-! ## Readings by section -/

/-- What the section on the keeping of answers is read from, whether it is there or not. -/
theorem Keeping.reads {home : Option String} {d : Option Datum} {k : Keeping}
    (h : orDefault (Keeping.shape home) {} d = .good k) :
    orDefault (choice Cache.Backend.names) .memory (d.bind (at? · ["backend"])) = .good k.backend ∧
      orDefault (path home) ".cache/trawlarr" ([["dir"], ["directory"]].findSome? fun place => d.bind (at? · place)) =
        .good k.directory ∧
      orDefault (meeting (0 ≤ ·) "search_ttl_seconds must be >= 0" whole) 120 (d.bind (at? · ["search_ttl_seconds"])) =
        .good k.lifetime ∧
      orDefault (meeting (1 ≤ ·) "must be >= 1" whole) 100 (d.bind (at? · ["max_entries"])) = .good k.capacity ∧
      orDefault (meeting (1 ≤ ·) "must be >= 1" whole) 10 (d.bind (at? · ["max_concurrent"])) = .good k.concurrent := by
  cases d with
  | none =>
      obtain rfl : {} = k := good.inj h
      exact ⟨rfl, rfl, rfl, rfl, rfl⟩
  | some d =>
      obtain ⟨entries, rfl, hread⟩ := record_eq_good_iff.mp h
      have hplaces : [] ∉ [["dir"], ["directory"]] := by decide
      simp only [seq_eq_good_iff, fmap_eq_good_iff, field_eq_good_iff, setting_eq_good_iff hplaces, ← at?_singleton] at hread
      obtain ⟨_, _, ⟨_, _, ⟨_, _, ⟨_, _, ⟨_, hbackend, rfl⟩, hdirectory, rfl⟩, hlifetime, rfl⟩, hcapacity, rfl⟩,
        hconcurrent, rfl⟩ := hread
      exact ⟨hbackend, hdirectory, hlifetime, hcapacity, hconcurrent⟩

/-- What the section on searches is read from, whether it is there or not. -/
theorem Searching.reads {d : Option Datum} {s : Searching} (h : orDefault Searching.shape {} d = .good s) :
    orDefault (meeting isNotBelowOrZero "indexer_timeout_seconds must be > 0" number) halfMinute
        (d.bind (at? · ["indexer_timeout_seconds"])) = .good s.deadline ∧
      orDefault whole 10 (d.bind (at? · ["max_concurrent_indexers"])) = .good s.concurrent ∧
      orDefault whole 100 (d.bind (at? · ["default_limit"])) = .good s.defaultLimit ∧
      orDefault whole 1000 (d.bind (at? · ["max_limit"])) = .good s.maxLimit ∧
      orDefault truth false (d.bind (at? · ["forward_categories"])) = .good s.forwards := by
  cases d with
  | none =>
      obtain rfl : {} = s := good.inj h
      exact ⟨rfl, rfl, rfl, rfl, rfl⟩
  | some d =>
      rw [orDefault_some, Searching.shape, meeting_eq_good_iff, meeting_eq_good_iff] at h
      obtain ⟨entries, rfl, hread⟩ := record_eq_good_iff.mp h.1.1
      simp only [seq_eq_good_iff, fmap_eq_good_iff, field_eq_good_iff, ← at?_singleton] at hread
      obtain ⟨_, _, ⟨_, _, ⟨_, _, ⟨_, _, ⟨_, hdeadline, rfl⟩, hconcurrent, rfl⟩, hdefault, rfl⟩, hmax, rfl⟩, hforwards,
        rfl⟩ := hread
      exact ⟨hdeadline, hconcurrent, hdefault, hmax, hforwards⟩

/-- What the section on the solver is read from, whether it is there or not. -/
theorem Solving.reads {d : Option Datum} {s : Solving} (h : orDefault Solving.shape {} d = .good s) :
    orDefault truth false (d.bind (at? · ["enabled"])) = .good s.enabled ∧
      orDefault text "" (d.bind (at? · ["url"])) = .good s.url ∧
      orDefault whole 60000 (d.bind (at? · ["max_timeout_ms"])) = .good s.patience := by
  cases d with
  | none =>
      obtain rfl : {} = s := good.inj h
      exact ⟨rfl, rfl, rfl⟩
  | some d =>
      rw [orDefault_some, Solving.shape, meeting_eq_good_iff] at h
      obtain ⟨entries, rfl, hread⟩ := record_eq_good_iff.mp h.1
      simp only [seq_eq_good_iff, fmap_eq_good_iff, field_eq_good_iff, ← at?_singleton] at hread
      obtain ⟨_, _, ⟨_, _, ⟨_, henabled, rfl⟩, hurl, rfl⟩, hpatience, rfl⟩ := hread
      exact ⟨henabled, hurl, hpatience⟩

/-- What a configuration is read from, part by part. -/
structure ReadFrom (home : Option String) (entries : Entries) (c : Config) : Prop where
  appName : orDefault text "trawlarr" (lookup? (.text "app_name") entries) = .good c.appName
  stage : orDefault (choice Stage.names) .dev (lookup? (.text "environment") entries) = .good c.stage
  definitionsDirectory : orDefault (path home) "definitions"
    ([["definitions_dir"], ["definitions", "dir"]].findSome? (at? (.map entries))) = .good c.definitionsDirectory
  requestTimeout : orDefault (meeting isNotBelowOrZero "http_timeout_seconds must be > 0" number) halfMinute
    ([["http_timeout_seconds"], ["http", "timeout_seconds"]].findSome? (at? (.map entries))) = .good c.requestTimeout
  followsRedirects : orDefault truth true
    ([["http_follow_redirects"], ["http", "follow_redirects"]].findSome? (at? (.map entries))) = .good c.followsRedirects
  userAgent : orDefault text "Trawlarr/0.1.0"
    ([["http_user_agent"], ["http", "user_agent"]].findSome? (at? (.map entries))) = .good c.userAgent
  logLevel : orDefault (choice LogLevel.names) .info
    ([["log_level"], ["logging", "level"]].findSome? (at? (.map entries))) = .good c.logLevel
  logFormat : ∃ format : Option LogFormat, orDefault (orNull (choice LogFormat.names)) none
    ([["log_format"], ["logging", "format"]].findSome? (at? (.map entries))) = .good format ∧
      format.getD c.stage.logFormat = c.logFormat
  cache : orDefault (Keeping.shape home) {} (lookup? (.text "cache") entries) = .good c.cache
  search : orDefault Searching.shape {} (lookup? (.text "search") entries) = .good c.search
  solver : orDefault Solving.shape {} (lookup? (.text "flaresolverr") entries) = .good c.solver
  overrides : orDefault overridesShape [] (lookup? (.text "indexers") entries) = .good c.overrides
  endpoints : orDefault (list Endpoint.shape) [] (lookup? (.text "torznab_endpoints") entries) = .good c.endpoints

/-- What it takes that a configuration is read. -/
theorem shape_eq_good_iff {home : Option String} {entries : Entries} {c : Config} :
    Config.shape home (.map entries) = .good c ↔ ReadFrom home entries c := by
  have hdefinitions : [] ∉ [["definitions_dir"], ["definitions", "dir"]] := by decide
  have htimeout : [] ∉ [["http_timeout_seconds"], ["http", "timeout_seconds"]] := by decide
  have hredirects : [] ∉ [["http_follow_redirects"], ["http", "follow_redirects"]] := by decide
  have hagent : [] ∉ [["http_user_agent"], ["http", "user_agent"]] := by decide
  have hlevel : [] ∉ [["log_level"], ["logging", "level"]] := by decide
  have hformat : [] ∉ [["log_format"], ["logging", "format"]] := by decide
  simp only [Config.shape, record, seq_eq_good_iff, fmap_eq_good_iff, field_eq_good_iff, setting_eq_good_iff hdefinitions,
    setting_eq_good_iff htimeout, setting_eq_good_iff hredirects, setting_eq_good_iff hagent, setting_eq_good_iff hlevel,
    setting_eq_good_iff hformat]
  constructor
  · rintro ⟨_, _, ⟨_, _, ⟨_, _, ⟨_, _, ⟨_, _, ⟨_, format, ⟨_, _, ⟨_, _, ⟨_, _, ⟨_, _, ⟨_, _, ⟨_, _, ⟨_, h1, rfl⟩, h2, rfl⟩,
      h3, rfl⟩, h4, rfl⟩, h5, rfl⟩, h6, rfl⟩, h7, rfl⟩, h8, rfl⟩, h9, rfl⟩, h10, rfl⟩, h11, rfl⟩, h12, rfl⟩, h13, rfl⟩
    exact ⟨h1, h2, h3, h4, h5, h6, h7, ⟨format, h8, rfl⟩, h9, h10, h11, h12, h13⟩
  · rintro ⟨h1, h2, h3, h4, h5, h6, h7, ⟨format, h8, hformat⟩, h9, h10, h11, h12, h13⟩
    refine ⟨_, _, ⟨_, _, ⟨_, _, ⟨_, _, ⟨_, _, ⟨_, _, ⟨_, _, ⟨_, _, ⟨_, _, ⟨_, _, ⟨_, _, ⟨_, _, ⟨_, h1, rfl⟩, h2, rfl⟩,
      h3, rfl⟩, h4, rfl⟩, h5, rfl⟩, h6, rfl⟩, h7, rfl⟩, h8, rfl⟩, h9, rfl⟩, h10, rfl⟩, h11, rfl⟩, h12, rfl⟩, h13, ?_⟩
    rw [hformat]

/-! ## Settings -/

/-- A setting that has one value. -/
inductive Setting where
  | appName | stage | definitionsDirectory | requestTimeout | followsRedirects | userAgent | logLevel | logFormat
  | cacheBackend | cacheDirectory | cacheLifetime | cacheCapacity | cacheConcurrent
  | searchDeadline | searchConcurrent | defaultLimit | maxLimit | forwards
  | solverEnabled | solverUrl | solverPatience
  | endpoints
  deriving DecidableEq, Repr

namespace Setting

/-- Where a setting stands in a document in sections. -/
def place : Setting → List String
  | appName => ["app_name"]
  | stage => ["environment"]
  | definitionsDirectory => ["definitions", "dir"]
  | requestTimeout => ["http", "timeout_seconds"]
  | followsRedirects => ["http", "follow_redirects"]
  | userAgent => ["http", "user_agent"]
  | logLevel => ["logging", "level"]
  | logFormat => ["logging", "format"]
  | cacheBackend => ["cache", "backend"]
  | cacheDirectory => ["cache", "dir"]
  | cacheLifetime => ["cache", "search_ttl_seconds"]
  | cacheCapacity => ["cache", "max_entries"]
  | cacheConcurrent => ["cache", "max_concurrent"]
  | searchDeadline => ["search", "indexer_timeout_seconds"]
  | searchConcurrent => ["search", "max_concurrent_indexers"]
  | defaultLimit => ["search", "default_limit"]
  | maxLimit => ["search", "max_limit"]
  | forwards => ["search", "forward_categories"]
  | solverEnabled => ["flaresolverr", "enabled"]
  | solverUrl => ["flaresolverr", "url"]
  | solverPatience => ["flaresolverr", "max_timeout_ms"]
  | endpoints => ["torznab_endpoints"]

/-- Where else a setting may stand in a document in sections. -/
def otherPlaces : Setting → List (List String)
  | cacheDirectory => [["cache", "directory"]]
  | _ => []

/-- The name that a setting has outside of its section. -/
def flatName? (s : Setting) : Option String :=
  match s.place with
  | [section', name] => Layer.flatName? section' name
  | _ => none

/-- What a setting is. -/
abbrev Kind : Setting → Type
  | appName | definitionsDirectory | userAgent | cacheDirectory | solverUrl => String
  | stage => Stage
  | requestTimeout | searchDeadline => Binary64
  | followsRedirects | forwards | solverEnabled => Bool
  | logLevel => LogLevel
  | logFormat => LogFormat
  | cacheBackend => Cache.Backend
  | cacheLifetime | cacheCapacity | cacheConcurrent | searchConcurrent | defaultLimit | maxLimit | solverPatience => Int
  | endpoints => List Endpoint

/-- What a configuration has for a setting. -/
def value (c : Config) : (s : Setting) → s.Kind
  | appName => c.appName
  | stage => c.stage
  | definitionsDirectory => c.definitionsDirectory
  | requestTimeout => c.requestTimeout
  | followsRedirects => c.followsRedirects
  | userAgent => c.userAgent
  | logLevel => c.logLevel
  | logFormat => c.logFormat
  | cacheBackend => c.cache.backend
  | cacheDirectory => c.cache.directory
  | cacheLifetime => c.cache.lifetime
  | cacheCapacity => c.cache.capacity
  | cacheConcurrent => c.cache.concurrent
  | searchDeadline => c.search.deadline
  | searchConcurrent => c.search.concurrent
  | defaultLimit => c.search.defaultLimit
  | maxLimit => c.search.maxLimit
  | forwards => c.search.forwards
  | solverEnabled => c.solver.enabled
  | solverUrl => c.solver.url
  | solverPatience => c.solver.patience
  | endpoints => c.endpoints

/-- The shape in which a setting is read; `home` is what `~` stands for, and the stage calls for a format of the log. -/
def shape (home : Option String) (stage' : Stage) : (s : Setting) → Shape s.Kind
  | appName | userAgent | solverUrl => text
  | stage => choice Stage.names
  | definitionsDirectory | cacheDirectory => path home
  | requestTimeout => meeting isNotBelowOrZero "http_timeout_seconds must be > 0" number
  | searchDeadline => meeting isNotBelowOrZero "indexer_timeout_seconds must be > 0" number
  | followsRedirects | forwards | solverEnabled => truth
  | logLevel => choice LogLevel.names
  | logFormat => fun d => (orNull (choice LogFormat.names) d).map (·.getD stage'.logFormat)
  | cacheBackend => choice Cache.Backend.names
  | cacheLifetime => meeting (0 ≤ ·) "search_ttl_seconds must be >= 0" whole
  | cacheCapacity | cacheConcurrent => meeting (1 ≤ ·) "must be >= 1" whole
  | searchConcurrent | defaultLimit | maxLimit | solverPatience => whole
  | endpoints => fun d => (ofExcept (Layer.endpoints d)).andThen (list Endpoint.shape)

/-- What holds where nothing is said: the default, or the format of the log that the stage calls for. -/
def fallback (stage' : Stage) : (s : Setting) → s.Kind
  | logFormat => stage'.logFormat
  | s => s.value {}

/-- The reading of what is said about a setting, if anything is. -/
def reading (home : Option String) (stage' : Stage) (s : Setting) (said : Option Datum) : Shaped s.Kind :=
  orDefault (s.shape home stage') (s.fallback stage') said

/-- What a document in sections has for a setting. -/
def inDocument (s : Setting) (entries : Entries) : Option Datum :=
  (s.place :: s.otherPlaces).findSome? (at? (.map entries))

theorem isPlace_place (s : Setting) : Layer.IsPlace s.place := by
  cases s <;> first | exact .inl ⟨_, by decide, _, rfl⟩ | exact .inr ⟨_, by decide, rfl⟩

/-- Endpoints are listed apart; no other setting is read from a map. -/
theorem noMap_of_shape {home : Option String} {stage' : Stage} {s : Setting} (hs : s ≠ endpoints) (entries : Entries)
    (a : s.Kind) : s.shape home stage' (.map entries) ≠ .good a := by
  cases s <;> first | exact absurd rfl hs | exact nofun

/-- A setting with a flat name that is not there is read at its other place. -/
theorem findSome?_behind_flat {entries : Entries} {flat : String} (hflat : lookup? (.text flat) entries = none)
    (place : List String) : [[flat], place].findSome? (at? (.map entries)) = at? (.map entries) place := by
  rw [List.findSome?_cons, at?_singleton, hflat, List.findSome?_singleton]

/-- Only the directory of the cache has a second place. -/
theorem otherPlaces_of_ne {s : Setting} (hs : s ≠ cacheDirectory) : s.otherPlaces = [] := by
  cases s <;> first | rfl | exact absurd rfl hs

/-- A setting with one place is what stands there. -/
theorem inDocument_of_ne {s : Setting} (hs : s ≠ cacheDirectory) (entries : Entries) :
    s.inDocument entries = at? (.map entries) s.place := by
  rw [inDocument, otherPlaces_of_ne hs, List.findSome?_singleton]

/-- What a configuration that is read has for a setting of a section. -/
theorem reading_at? {home : Option String} {entries : Entries} {c : Config} (h : ReadFrom home entries c)
    (hflat : ∀ flat ∈ Layer.flatNames, lookup? (.text flat.1) entries = none) {s : Setting} (hdirectory : s ≠ cacheDirectory)
    (hendpoints : s ≠ endpoints) : s.reading home c.stage (at? (.map entries) s.place) = .good (s.value c) := by
  obtain ⟨cacheBackend, -, cacheLifetime, cacheCapacity, cacheConcurrent⟩ := Keeping.reads h.cache
  obtain ⟨searchDeadline, searchConcurrent, defaultLimit, maxLimit, forwards⟩ := Searching.reads h.search
  obtain ⟨solverEnabled, solverUrl, solverPatience⟩ := Solving.reads h.solver
  have hbehind : ∀ flat ∈ Layer.flatNames.map (·.1), ∀ place,
      at? (.map entries) place = [[flat], place].findSome? (at? (.map entries)) := by
    intro flat hmem place
    obtain ⟨_, hflatName, rfl⟩ := List.mem_map.mp hmem
    exact (findSome?_behind_flat (hflat _ hflatName) place).symm
  have hinside := fun s n => at?_map entries s [n]
  cases s with
  | appName => exact (congrArg _ (at?_singleton _ _)).trans h.appName
  | stage => exact (congrArg _ (at?_singleton _ _)).trans h.stage
  | definitionsDirectory => exact (congrArg _ (hbehind _ (by decide) _)).trans h.definitionsDirectory
  | requestTimeout => exact (congrArg _ (hbehind _ (by decide) _)).trans h.requestTimeout
  | followsRedirects => exact (congrArg _ (hbehind _ (by decide) _)).trans h.followsRedirects
  | userAgent => exact (congrArg _ (hbehind _ (by decide) _)).trans h.userAgent
  | logLevel => exact (congrArg _ (hbehind _ (by decide) _)).trans h.logLevel
  | logFormat =>
      obtain ⟨format, hformat, heq⟩ := h.logFormat
      rw [← hbehind _ (by decide)] at hformat
      change orDefault _ _ (at? (.map entries) ["logging", "format"]) = .good c.logFormat
      cases hd : at? (.map entries) ["logging", "format"] with
      | none =>
          rw [hd] at hformat
          obtain rfl : none = format := good.inj hformat
          exact congrArg good heq
      | some d =>
          rw [hd] at hformat
          exact map_eq_good_iff.mpr ⟨format, hformat, heq⟩
  | cacheBackend => exact (congrArg _ (hinside _ _)).trans cacheBackend
  | cacheLifetime => exact (congrArg _ (hinside _ _)).trans cacheLifetime
  | cacheCapacity => exact (congrArg _ (hinside _ _)).trans cacheCapacity
  | cacheConcurrent => exact (congrArg _ (hinside _ _)).trans cacheConcurrent
  | searchDeadline => exact (congrArg _ (hinside _ _)).trans searchDeadline
  | searchConcurrent => exact (congrArg _ (hinside _ _)).trans searchConcurrent
  | defaultLimit => exact (congrArg _ (hinside _ _)).trans defaultLimit
  | maxLimit => exact (congrArg _ (hinside _ _)).trans maxLimit
  | forwards => exact (congrArg _ (hinside _ _)).trans forwards
  | solverEnabled => exact (congrArg _ (hinside _ _)).trans solverEnabled
  | solverUrl => exact (congrArg _ (hinside _ _)).trans solverUrl
  | solverPatience => exact (congrArg _ (hinside _ _)).trans solverPatience
  | cacheDirectory => exact absurd rfl hdirectory
  | endpoints => exact absurd rfl hendpoints

/-- The directory of the cache is read at either of its places. -/
theorem reading_cacheDirectory {home : Option String} {entries : Entries} {c : Config} (h : ReadFrom home entries c) :
    cacheDirectory.reading home c.stage (cacheDirectory.inDocument entries) = .good c.cache.directory := by
  have hplaces : cacheDirectory.inDocument entries =
      [["dir"], ["directory"]].findSome? fun place => (lookup? (.text "cache") entries).bind (at? · place) := by
    rw [inDocument, place, otherPlaces, List.findSome?_cons, List.findSome?_cons, at?_map, at?_map]
    rfl
  rw [hplaces]
  exact (Keeping.reads h.cache).2.1

/-- Endpoints are read as they are listed. -/
theorem shape_endpoints_of_list {d : Datum} {es : List Endpoint} (h : list Endpoint.shape d = .good es)
    (home : Option String) (stage' : Stage) : endpoints.shape home stage' d = .good es := by
  cases d with
  | list ds =>
      change (ofExcept (Layer.endpoints (.list ds))).andThen (list Endpoint.shape) = .good es
      rw [Layer.endpoints_list]
      exact h
  | _ => cases h

/-- **What a configuration has for a setting is what the document has for it**, if no flat names are left in it. -/
theorem reads {home : Option String} {entries : Entries} {c : Config} (h : ReadFrom home entries c)
    (hflat : ∀ flat ∈ Layer.flatNames, lookup? (.text flat.1) entries = none) (s : Setting) :
    NoMap (s.inDocument entries) ∧ s.reading home c.stage (s.inDocument entries) = .good (s.value c) := by
  by_cases hendpoints : s = endpoints
  · subst hendpoints
    have hread := h.endpoints
    rw [inDocument_of_ne (by decide), place, at?_singleton]
    have hlist : ∀ entries a, list Endpoint.shape (.map entries) ≠ .good a := fun _ _ => nofun
    refine ⟨noMap_of_orDefault hlist hread, ?_⟩
    cases hd : lookup? (.text "torznab_endpoints") entries with
    | none =>
        rw [hd] at hread
        exact hread
    | some d =>
        rw [hd] at hread
        exact shape_endpoints_of_list hread home c.stage
  · have hread : s.reading home c.stage (s.inDocument entries) = .good (s.value c) := by
      by_cases hdirectory : s = cacheDirectory
      · subst hdirectory
        exact reading_cacheDirectory h
      · rw [inDocument_of_ne hdirectory]
        exact reading_at? h hflat hdirectory hendpoints
    exact ⟨noMap_of_orDefault (fun entries a => noMap_of_shape hendpoints entries a) hread, hread⟩

end Setting

end Config

end MetaSearch
