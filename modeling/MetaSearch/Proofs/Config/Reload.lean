import MetaSearch.Proofs.Config.Layers
import MetaSearch.Proofs.Config.Setting
import MetaSearch.Proofs.Text.PathName

/-!
# Configurations that are read again

A configuration that was loaded is written as a document, and the document is read as a file is, with nothing said in
variables or on the command line.

* `stacked_document`: the document covers the defaults, so that laid over them it is all that is left.
* `ReadFrom.wellFormed`: what holds of whatever is read (`WellFormed`), as bounds of numbers and names that are there once.
* `WellFormed.shape_document`: the sections, sites and endpoints of a well-formed configuration are read from its document.
* `reload_of_load_iff`: what was loaded is read again as it was, exactly if its paths are settled (`PathsSettled`), and they
  are where `~` stood for a path from the root.
-/

namespace MetaSearch

namespace Config

open Datum Shape Shaped

/-- A configuration read again from a document that stands for a file: no variables are set, and nothing is said on the
command line.  `home` is what `~` stands for then. -/
def reload (home : Option String) (d : Datum) : Except Refusal Config :=
  match d with
  | .map entries => do
    let layer ← orRefuse (Layer.sectioned entries)
    settle (Config.shape home (.map (Layer.stacked defaultLayer [layer])))
  | _ => .error .notSettings

/-- Where the variables set nothing and nothing is said on the command line, loading is reading a file again. -/
theorem load_eq_reload {file : Source} {entries : Entries} {vars : Variables} (hfile : file.settings = .ok entries)
    (hvars : variableLayer vars = .good []) : load file .unnamed vars [] = reload (homeOf? vars) (.map entries) := by
  rw [load, fileLayer_eq, hfile, reload]
  cases hlayer : Layer.sectioned entries with
  | error f => simp [withVariableFile, orRefuse, bind, Except.bind, hlayer]
  | ok layer =>
      have hnothing : Layer.sectioned [] = .ok [] := rfl
      simp only [withVariableFile, orRefuse, bind, Except.bind, hlayer, hvars, settle, hnothing]
      rfl

/-! ## The document as a layer -/

/-- What is set for sites, as a document. -/
def sitesDocument (c : Config) : Datum :=
  .object (c.overrides.map fun (id, o) => (id, o.document))

/-- The entries of the document of a configuration, with what stands for the sites in it. -/
def entriesWith (c : Config) (sites : Datum) : Entries :=
  [(.text "app_name", .text c.appName), (.text "environment", .text c.stage.name),
   (.text "definitions", .object [("dir", .text c.definitionsDirectory)]),
   (.text "http", .object [("timeout_seconds", .float c.requestTimeout), ("follow_redirects", .bool c.followsRedirects),
      ("user_agent", .text c.userAgent)]),
   (.text "logging", .object [("level", .text c.logLevel.name), ("format", .text c.logFormat.name)]),
   (.text "cache", c.cache.document), (.text "search", c.search.document), (.text "flaresolverr", c.solver.document),
   (.text "indexers", sites), (.text "torznab_endpoints", .list (c.endpoints.map Endpoint.document))]

theorem document_eq (c : Config) : c.document = .map (c.entriesWith c.sitesDocument) := rfl

/-- **The document covers the defaults.**  Laid over them it is all that is left. -/
theorem stacked_document {c : Config} (h : (c.overrides.map (·.1)).Nodup) :
    ∃ layer, Layer.sectioned (c.entriesWith c.sitesDocument) = .ok layer ∧
      Layer.stacked defaultLayer [layer] = c.entriesWith c.sitesDocument := by
  have hlisted : Layer.listed? (c.entriesWith c.sitesDocument) =
      .ok (some (.list (c.endpoints.map Endpoint.document))) := congrArg (Except.map some) (Layer.endpoints_list _)
  refine ⟨_, Layer.sectioned_eq_ok_iff.mpr ⟨_, hlisted, rfl⟩, ?_⟩
  have hnames : ((c.overrides.map fun (id, o) => (id, o.document)).map (·.1)).Nodup := by
    rw [List.map_map]
    exact h
  have hsites : overlay (.map []) c.sitesDocument = c.sitesDocument := by
    rw [sitesDocument, object, overlay, overlayEntries_nil (distinct_fields hnames)]
  change c.entriesWith (overlay (.map []) c.sitesDocument) = _
  rw [hsites]

/-! ## What a configuration has that was read -/

/-- The home that is known, if any is, is a path from the root, as the homes of users are; the empty one is the root. -/
def HomeIsRooted (home : Option String) : Prop :=
  ∀ h, home = some h → h = "" ∨ h.toList.head? = some '/'

/-- No path of a configuration starts from somebody's home, as they do with `~` for their first part. -/
structure PathsSettled (c : Config) : Prop where
  definitions : PathName.isFromHome c.definitionsDirectory = false
  cache : PathName.isFromHome c.cache.directory = false

/-- An endpoint has its identifier for a name where it has no other. -/
def IsNamed (e : Endpoint) : Prop :=
  e.name = "" → e.id = ""

/-- What it takes that a configuration is read from its document, its paths apart. -/
structure WellFormed (c : Config) : Prop where
  definitionsDirectory : PathName.normal c.definitionsDirectory = c.definitionsDirectory
  requestTimeout : isNotBelowOrZero c.requestTimeout = true
  cacheDirectory : PathName.normal c.cache.directory = c.cache.directory
  lifetime : 0 ≤ c.cache.lifetime
  capacity : 1 ≤ c.cache.capacity
  cacheConcurrent : 1 ≤ c.cache.concurrent
  deadline : isNotBelowOrZero c.search.deadline = true
  concurrent : 1 ≤ c.search.concurrent
  limits : 1 ≤ c.search.defaultLimit ∧ c.search.defaultLimit ≤ c.search.maxLimit
  solver : c.solver.enabled = true → c.solver.url ≠ ""
  /-- No site is there twice. -/
  sites : (c.overrides.map (·.1)).Nodup
  /-- No setting of a site is there twice. -/
  settings : ∀ site ∈ c.overrides, (site.2.settings.map (·.1)).Nodup
  endpoints : ∀ e ∈ c.endpoints, IsNamed e

/-- A path that is written out and is from nobody's home is read as it is. -/
theorem path_of_settled {p : String} (hnormal : PathName.normal p = p) (hsettled : PathName.isFromHome p = false)
    (home : Option String) : path home (.text p) = .good p :=
  path_eq_good_iff.mpr ⟨p, rfl, by rw [PathName.ofText_of_not_isFromHome hsettled, hnormal]⟩

/-- An endpoint that is read is named. -/
theorem isNamed_of_shape {d : Datum} {e : Endpoint} (h : Endpoint.shape d = .good e) : IsNamed e := by
  obtain ⟨entries, rfl, hread⟩ := record_eq_good_iff.mp h
  simp only [seq_eq_good_iff, fmap_eq_good_iff] at hread
  obtain ⟨_, _, ⟨_, _, ⟨_, _, ⟨_, _, ⟨_, _, ⟨_, name, ⟨id, -, rfl⟩, -, rfl⟩, -, rfl⟩, -, rfl⟩, -, rfl⟩, -, rfl⟩, -,
    rfl⟩ := hread
  intro hname
  by_cases hempty : name.isEmpty = true
  · simpa [hempty] using hname
  · simp only [hempty] at hname
    exact absurd (String.isEmpty_iff.mpr hname) hempty

/-- What is read for a site has no setting twice. -/
theorem nodup_of_override {d : Datum} {o : Override} (h : Override.shape d = .good o) : (o.settings.map (·.1)).Nodup := by
  obtain ⟨entries, rfl, hread⟩ := record_eq_good_iff.mp h
  simp only [seq_eq_good_iff, fmap_eq_good_iff, field_eq_good_iff] at hread
  obtain ⟨_, settings, ⟨_, _, ⟨_, -, rfl⟩, -, rfl⟩, hsettings, rfl⟩ := hread
  exact of_orDefault (motive := fun settings => (settings.map (·.1)).Nodup) hsettings List.nodup_nil
    fun d a hd => (table_eq_good hd).1

/-- **A configuration that is read is well formed.** -/
theorem ReadFrom.wellFormed {home : Option String} {entries : Entries} {c : Config} (h : ReadFrom home entries c) :
    c.WellFormed := by
  obtain ⟨-, hdirectory, hlifetime, hcapacity, hconcurrent⟩ := Keeping.reads h.cache
  obtain ⟨hdeadline, -, -, -, -⟩ := Searching.reads h.search
  have hwritten : ∀ d p, path home d = .good p → PathName.normal p = p := fun d p hp => by
    obtain ⟨s, -, hread⟩ := path_eq_good_iff.mp hp
    exact PathName.normal_of_ofText hread
  have hsearch : 1 ≤ c.search.concurrent ∧ 1 ≤ c.search.defaultLimit ∧ c.search.defaultLimit ≤ c.search.maxLimit := by
    refine of_orDefault (motive := fun s : Searching => 1 ≤ s.concurrent ∧ 1 ≤ s.defaultLimit ∧ s.defaultLimit ≤ s.maxLimit)
      h.search (by decide) fun d s hs => ?_
    obtain ⟨hinner, hlimits⟩ := meeting_eq_good_iff.mp hs
    exact ⟨of_decide_eq_true (meeting_eq_good_iff.mp hinner).2, by simpa using hlimits⟩
  have hsites : (c.overrides.map (·.1)).Nodup ∧ ∀ site ∈ c.overrides, (site.2.settings.map (·.1)).Nodup := by
    refine of_orDefault (motive := fun sites : List (String × Override) => (sites.map (·.1)).Nodup ∧
      ∀ site ∈ sites, (site.2.settings.map (·.1)).Nodup) h.overrides ⟨List.nodup_nil, by simp⟩ fun d sites hd => ?_
    rw [overridesShape] at hd
    split at hd
    · obtain ⟨hnames, hvalues⟩ := table_eq_good hd
      exact ⟨hnames, fun site hsite => (hvalues site hsite).elim fun e he => nodup_of_override he⟩
    · obtain rfl := good.inj hd
      exact ⟨List.nodup_nil, by simp⟩
  constructor
  case definitionsDirectory =>
    exact of_orDefault (motive := fun p => PathName.normal p = p) h.definitionsDirectory rfl hwritten
  case requestTimeout =>
    exact of_orDefault (motive := fun x => isNotBelowOrZero x = true) h.requestTimeout
      isNotBelowOrZero_halfMinute fun d x hx => (meeting_eq_good_iff.mp hx).2
  case cacheDirectory =>
    exact of_orDefault (motive := fun p => PathName.normal p = p) hdirectory rfl hwritten
  case lifetime =>
    exact of_orDefault (motive := fun i => 0 ≤ i) hlifetime (by decide)
      fun d i hi => of_decide_eq_true (meeting_eq_good_iff.mp hi).2
  case capacity =>
    exact of_orDefault (motive := fun i => 1 ≤ i) hcapacity (by decide)
      fun d i hi => of_decide_eq_true (meeting_eq_good_iff.mp hi).2
  case cacheConcurrent =>
    exact of_orDefault (motive := fun i => 1 ≤ i) hconcurrent (by decide)
      fun d i hi => of_decide_eq_true (meeting_eq_good_iff.mp hi).2
  case deadline =>
    exact of_orDefault (motive := fun x => isNotBelowOrZero x = true) hdeadline isNotBelowOrZero_halfMinute
      fun d x hx => (meeting_eq_good_iff.mp hx).2
  case concurrent => exact hsearch.1
  case limits => exact hsearch.2
  case solver =>
    refine of_orDefault (motive := fun s : Solving => s.enabled = true → s.url ≠ "") h.solver (by decide)
      fun d s hs henabled => ?_
    have hurl := (meeting_eq_good_iff.mp hs).2
    simpa [henabled] using hurl
  case sites => exact hsites.1
  case settings => exact hsites.2
  case endpoints =>
    exact of_orDefault (motive := fun es : List Endpoint => ∀ e ∈ es, IsNamed e) h.endpoints (by simp)
      fun d es hd e he => (list_eq_good hd e he).elim fun d hd => isNamed_of_shape hd

/-- Where `~` stood for a path from the root, the paths that are read are settled. -/
theorem ReadFrom.pathsSettled {home : Option String} (hhome : HomeIsRooted home) {entries : Entries} {c : Config}
    (h : ReadFrom home entries c) : c.PathsSettled := by
  have hsettled : ∀ d p, path home d = .good p → PathName.isFromHome p = false := fun d p hp => by
    obtain ⟨s, -, hread⟩ := path_eq_good_iff.mp hp
    exact PathName.isFromHome_of_ofText hhome hread
  exact ⟨of_orDefault (motive := fun p => PathName.isFromHome p = false) h.definitionsDirectory (by decide) hsettled,
    of_orDefault (motive := fun p => PathName.isFromHome p = false) (Keeping.reads h.cache).2.1 (by decide) hsettled⟩

/-! ## Reading the document -/

/-- A word of a choice is read as what it stands for. -/
theorem choice_names :
    (∀ a : Stage, choice Stage.names (.text a.name) = .good a) ∧
      (∀ a : LogLevel, choice LogLevel.names (.text a.name) = .good a) ∧
      (∀ a : LogFormat, choice LogFormat.names (.text a.name) = .good a) ∧
      ∀ a : Cache.Backend, choice Cache.Backend.names (.text a.name) = .good a := by
  refine ⟨?_, ?_, ?_, ?_⟩ <;> rintro ⟨⟩ <;> rfl

/-- A number that may be absent is read from what it is written as. -/
theorem orNull_optionalInt (i : Option Int) : orNull whole (optionalInt i) = .good i := by
  cases i <;> rfl

/-- A text that may be absent is read from what it is written as. -/
theorem orNull_optionalText (t : Option String) :
    orNull text (match t with
      | some s => .text s
      | none => .null) = .good t := by
  cases t <;> rfl

/-- An endpoint is read from its document. -/
theorem shape_endpoint {e : Endpoint} (h : IsNamed e) : Endpoint.shape e.document = .good e := by
  have hcategories : list whole (.list (e.categories.map .int)) = .good e.categories := list_map fun _ _ => rfl
  have hname : (if e.name.isEmpty then e.id else e.name) = e.name := by
    by_cases hempty : e.name = ""
    · rw [hempty, h hempty]
      rfl
    · rw [if_neg (by simpa using hempty)]
  simp only [Endpoint.shape, Endpoint.document, object, record, seq_eq_good_iff, fmap_eq_good_iff, field_eq_good_iff,
    required_eq_good_iff]
  refine ⟨_, _, ⟨_, _, ⟨_, _, ⟨_, _, ⟨_, _, ⟨_, _, ⟨_, ⟨_, rfl, rfl⟩, rfl⟩, rfl, rfl⟩, ⟨_, rfl, rfl⟩, rfl⟩,
    orNull_optionalText e.apiKey, rfl⟩, rfl, rfl⟩, hcategories, rfl⟩, rfl, ?_⟩
  rw [hname]

/-- What is set for a site is read from its document. -/
theorem shape_override {o : Override} (h : (o.settings.map (·.1)).Nodup) : Override.shape o.document = .good o := by
  have hsettings : table text anything (.object o.settings) = .good o.settings := by
    have hread : table text anything (.object (o.settings.map fun field => (field.1, id field.2))) = .good o.settings :=
      table_object h fun _ _ => rfl
    have hsame : (o.settings.map fun field => (field.1, id field.2)) = o.settings := List.map_id' _
    rwa [hsame] at hread
  simp only [Override.shape, Override.document, object, record, seq_eq_good_iff, fmap_eq_good_iff, field_eq_good_iff]
  exact ⟨_, _, ⟨_, _, ⟨_, rfl, rfl⟩, orNull_optionalInt o.priority, rfl⟩, hsettings, rfl⟩

namespace WellFormed

variable {c : Config}

theorem shape_cache (h : c.WellFormed) (hpaths : c.PathsSettled) (home : Option String) :
    Keeping.shape home c.cache.document = .good c.cache := by
  have hplaces : [] ∉ [["dir"], ["directory"]] := by decide
  have hdirectory := path_of_settled h.cacheDirectory hpaths.cache home
  have hlifetime : meeting (0 ≤ ·) "search_ttl_seconds must be >= 0" whole (.int c.cache.lifetime) =
      .good c.cache.lifetime := meeting_eq_good_iff.mpr ⟨rfl, decide_eq_true h.lifetime⟩
  have hcapacity : meeting (1 ≤ ·) "must be >= 1" whole (.int c.cache.capacity) = .good c.cache.capacity :=
    meeting_eq_good_iff.mpr ⟨rfl, decide_eq_true h.capacity⟩
  have hconcurrent : meeting (1 ≤ ·) "must be >= 1" whole (.int c.cache.concurrent) = .good c.cache.concurrent :=
    meeting_eq_good_iff.mpr ⟨rfl, decide_eq_true h.cacheConcurrent⟩
  simp only [Keeping.shape, Keeping.document, object, record, seq_eq_good_iff, fmap_eq_good_iff, field_eq_good_iff,
    setting_eq_good_iff hplaces]
  exact ⟨_, _, ⟨_, _, ⟨_, _, ⟨_, _, ⟨_, choice_names.2.2.2 c.cache.backend, rfl⟩, hdirectory, rfl⟩, hlifetime, rfl⟩,
    hcapacity, rfl⟩, hconcurrent, rfl⟩

theorem shape_search (h : c.WellFormed) : Searching.shape c.search.document = .good c.search := by
  have hdeadline : meeting isNotBelowOrZero "indexer_timeout_seconds must be > 0" number (.float c.search.deadline) =
      .good c.search.deadline := meeting_eq_good_iff.mpr ⟨rfl, h.deadline⟩
  rw [Searching.shape, meeting_eq_good_iff, meeting_eq_good_iff]
  refine ⟨⟨?_, decide_eq_true h.concurrent⟩, by simpa using h.limits⟩
  simp only [Searching.document, object, record, seq_eq_good_iff, fmap_eq_good_iff, field_eq_good_iff]
  exact ⟨_, _, ⟨_, _, ⟨_, _, ⟨_, _, ⟨_, hdeadline, rfl⟩, rfl, rfl⟩, rfl, rfl⟩, rfl, rfl⟩, rfl, rfl⟩

theorem shape_solver (h : c.WellFormed) : Solving.shape c.solver.document = .good c.solver := by
  have hsolver := h.solver
  rw [Solving.shape, meeting_eq_good_iff]
  refine ⟨?_, by cases henabled : c.solver.enabled <;> simp_all⟩
  simp only [Solving.document, object, record, seq_eq_good_iff, fmap_eq_good_iff, field_eq_good_iff]
  exact ⟨_, _, ⟨_, _, ⟨_, rfl, rfl⟩, rfl, rfl⟩, rfl, rfl⟩

/-- What is set for sites is read from its document. -/
theorem shape_sites (h : c.WellFormed) : overridesShape c.sitesDocument = .good c.overrides := by
  have htable : table text Override.shape c.sitesDocument = .good c.overrides :=
    table_object h.sites fun site hsite => shape_override (h.settings site hsite)
  rw [overridesShape]
  split
  · exact htable
  · rename_i hempty
    have hnil : c.overrides = [] := by
      cases hoverrides : c.overrides with
      | nil => rfl
      | cons site rest => simp [sitesDocument, object, isTruthy, hoverrides] at hempty
    rw [hnil]

/-- **A well-formed configuration with settled paths is read from its document**, whatever the home. -/
theorem shape_document (h : c.WellFormed) (hpaths : c.PathsSettled) (home : Option String) :
    Config.shape home c.document = .good c := by
  have htimeout : meeting isNotBelowOrZero "http_timeout_seconds must be > 0" number (.float c.requestTimeout) =
      .good c.requestTimeout := meeting_eq_good_iff.mpr ⟨rfl, h.requestTimeout⟩
  obtain ⟨hstage, hlevel, hformat, -⟩ := choice_names
  have hsome : orNull (choice LogFormat.names) (.text c.logFormat.name) = .good (some c.logFormat) :=
    map_eq_good_iff.mpr ⟨_, hformat c.logFormat, rfl⟩
  have hendpoints : list Endpoint.shape (.list (c.endpoints.map Endpoint.document)) = .good c.endpoints :=
    list_map fun e he => shape_endpoint (h.endpoints e he)
  rw [document_eq, shape_eq_good_iff]
  constructor
  case appName => rfl
  case stage => exact hstage c.stage
  case definitionsDirectory => exact path_of_settled h.definitionsDirectory hpaths.definitions home
  case requestTimeout => exact htimeout
  case followsRedirects => rfl
  case userAgent => rfl
  case logLevel => exact hlevel c.logLevel
  case logFormat => exact ⟨some c.logFormat, hsome, rfl⟩
  case cache => exact h.shape_cache hpaths home
  case search => exact h.shape_search
  case solver => exact h.shape_solver
  case overrides => exact h.shape_sites
  case endpoints => exact hendpoints

/-- Where no site is there twice, the document is read again as it is. -/
theorem reload_document_eq (h : c.WellFormed) (home : Option String) :
    reload home c.document = settle (Config.shape home c.document) := by
  obtain ⟨layer, hlayer, hstack⟩ := stacked_document h.sites
  rw [document_eq]
  simp only [reload, hlayer, orRefuse, bind, Except.bind, hstack]

/-- A well-formed configuration that is read again from its document had paths that are read as they are. -/
theorem paths_of_reload (h : c.WellFormed) {home : Option String} (hreload : reload home c.document = .ok c) :
    path home (.text c.definitionsDirectory) = .good c.definitionsDirectory ∧
      path home (.text c.cache.directory) = .good c.cache.directory := by
  rw [h.reload_document_eq, settle_eq_ok_iff, document_eq] at hreload
  have hread := shape_eq_good_iff.mp hreload
  exact ⟨hread.definitionsDirectory, (Keeping.reads hread.cache).2.1⟩

/-- **A well-formed configuration is read again from its document**, whatever the home, exactly if its paths are settled. -/
theorem reload_document_iff (h : c.WellFormed) : (∀ home, reload home c.document = .ok c) ↔ c.PathsSettled := by
  constructor
  · intro hreload
    obtain ⟨hdefinitions, hcache⟩ := h.paths_of_reload (hreload none)
    obtain ⟨_, htext, hdefinitions⟩ := path_eq_good_iff.mp hdefinitions
    obtain ⟨_, htext', hcache⟩ := path_eq_good_iff.mp hcache
    obtain rfl := Datum.text.inj htext
    obtain rfl := Datum.text.inj htext'
    exact ⟨PathName.isFromHome_of_ofText_none hdefinitions, PathName.isFromHome_of_ofText_none hcache⟩
  · intro hpaths home
    rw [h.reload_document_eq, h.shape_document hpaths home]
    rfl

end WellFormed

/-- What a configuration is read from that is loaded. -/
theorem exists_readFrom_of_load {file variableFile : Source} {vars : Variables} {commandLine : Entries} {c : Config}
    (h : load file variableFile vars commandLine = .ok c) :
    ∃ vars' entries, withVariableFile vars variableFile = .ok vars' ∧ ReadFrom (homeOf? vars') entries c := by
  obtain ⟨vars', _, _, _, _, hvars, -, -, -, -, hc⟩ := exists_of_load h
  exact ⟨vars', _, hvars, shape_eq_good_iff.mp hc⟩

/-- **Dumping and reading again is the identity** on what is loaded, exactly if its paths are settled: the document of the
configuration, laid over the defaults alone, is read as the same configuration, whatever the home is then.  Where `~` stood
for a path from the root when it was loaded, its paths are settled. -/
theorem reload_of_load_iff {file variableFile : Source} {vars : Variables} {commandLine : Entries} {c : Config}
    (hload : load file variableFile vars commandLine = .ok c) :
    ((∀ home, reload home c.document = .ok c) ↔ c.PathsSettled) ∧
      ((∀ vars', withVariableFile vars variableFile = .ok vars' → HomeIsRooted (homeOf? vars')) → c.PathsSettled) := by
  obtain ⟨vars', entries, hvariables, hread⟩ := exists_readFrom_of_load hload
  exact ⟨hread.wellFormed.reload_document_iff, fun hhome => hread.pathsSettled (hhome vars' hvariables)⟩

/-- A file with a path from home, and a site with settings. -/
def homeFile : List UInt8 := "definitions_dir: ~/sites
indexers: \x7ba: \x7bsettings: \x7bb: [1]\x7d\x7d\x7d".toUTF8.toList

/-- What that file sets is still there after reading again, whatever the home is then. -/
theorem reload_of_load_rooted_home :
    ∃ c, load (.bytes homeFile) .unnamed [("HOME", "/root")] [] = .ok c ∧ c.definitionsDirectory = "/root/sites" ∧
      (c.override "a").settings.length = 1 ∧ ∀ home, reload home c.document = .ok c := by
  have hrooted : HomeIsRooted (homeOf? [("HOME", "/root")]) := by
    rintro h heq
    obtain rfl : "/root" = h := Option.some.inj heq
    decide
  have hloaded : (load (.bytes homeFile) .unnamed [("HOME", "/root")] []).toOption.map (fun c =>
      (c.definitionsDirectory, (c.override "a").settings.length)) = some ("/root/sites", 1) := by decide +kernel
  obtain ⟨c, hload, hfound⟩ := exists_of_map_toOption hloaded
  obtain ⟨hdirectory, hlength⟩ := Prod.mk.inj hfound
  obtain ⟨hiff, hsettled⟩ := reload_of_load_iff hload
  have hpaths : c.PathsSettled := hsettled fun vars' hvars => by
    obtain rfl : [("HOME", "/root")] = vars' := Except.ok.inj hvars
    exact hrooted
  exact ⟨c, hload, hdirectory, hlength, hiff.mpr hpaths⟩

/-- **Where the home is a relative path that begins with `~` itself**, the path that is loaded starts from somebody's home
once more, and what was loaded is not read again: nobody knows that home. -/
theorem reload_fails_of_relative_home :
    ∃ c, load (.bytes homeFile) .unnamed [("HOME", "./~no-such-user")] [] = .ok c ∧
      c.definitionsDirectory = "~no-such-user/sites" ∧ ∀ home, reload home c.document ≠ .ok c := by
  have hloaded : (load (.bytes homeFile) .unnamed [("HOME", "./~no-such-user")] []).toOption.map (·.definitionsDirectory) =
      some "~no-such-user/sites" := by decide +kernel
  have hunknown : ∀ home, PathName.ofText home "~no-such-user/sites" = .error .unknownHome := by
    intro home
    cases home <;> rfl
  obtain ⟨c, hload, hdirectory⟩ := exists_of_map_toOption hloaded
  obtain ⟨vars', entries, -, hread⟩ := exists_readFrom_of_load hload
  refine ⟨c, hload, hdirectory, fun home hreload => ?_⟩
  obtain ⟨s, htext, hpath⟩ := path_eq_good_iff.mp (hread.wellFormed.paths_of_reload hreload).1
  obtain rfl := Datum.text.inj htext
  rw [hdirectory, hunknown home] at hpath
  cases hpath

end Config

end MetaSearch
