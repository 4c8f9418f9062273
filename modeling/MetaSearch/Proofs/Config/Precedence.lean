import MetaSearch.Proofs.Config.Layers
import MetaSearch.Proofs.Config.Setting
import MetaSearch.Proofs.Datum.Equality

/-!
# Which layer decides

The defaults, a file, the variables of an environment and the command line are laid over each other.  A layer may set a
setting under its flat name, in its section, or at another place that counts for it, and what the highest layer has that sets
a setting in one of some spellings is `Setting.highest`.

* `Layers.Written.at?_place` is the stack of layers at the place of a setting, and `Layers.Written.follows_latestOwn` the
  value that a setting has for it.
* `Layers.Written.site_follows` is the same for single sites, whose settings go as deep as they like.
* `exists_obeys_of_load` puts both together for what is loaded (`Obeys`).  A setting with one place follows the highest layer
  that sets it in any spelling.  The directory of the cache has two, and the default at the one hides what any layer sets at
  the other (`load_directory_ignored`).
-/

namespace MetaSearch.Config

open Datum Shape

/-- What is said over the defaults, layer by layer, as it comes. -/
structure Layers where
  file : Entries
  vars : Variables
  commandLine : Entries

namespace Setting

/-- The spellings of a setting in a layer at its own place: its flat name, and where it stands in its section. -/
def ownSpellings (s : Setting) : List (List String) :=
  s.flatName?.toList.map ([·]) ++ [s.place]

/-- What a layer has for a setting in the first of some spellings that it uses. -/
def spelled (spellings : List (List String)) (layer : Entries) : Option Datum :=
  spellings.findSome? (at? (.map layer))

/-- What the highest layer has that sets a setting in one of some spellings. -/
def highest (s : Setting) (spellings : List (List String)) (layers : Layers) : Option Datum :=
  (spelled spellings layers.commandLine).or ((inVariables? layers.vars s.place).or (spelled spellings layers.file))

/-- What the highest layer has that sets a setting, in whatever spelling. -/
def latest (s : Setting) (layers : Layers) : Option Datum :=
  s.highest (s.ownSpellings ++ s.otherPlaces) layers

/-- What the highest layer has that sets a setting at its own place. -/
def latestOwn (s : Setting) (layers : Layers) : Option Datum :=
  s.highest s.ownSpellings layers

/-- A setting has the value that what is said about it comes to, or else its fallback. -/
def Follows (s : Setting) (home : Option String) (c : Config) (said : Option Datum) : Prop :=
  s.reading home c.stage said = .good (s.value c)

variable {home : Option String} {stage' : Stage}

/-- What the defaults have for a setting is read as its fallback. -/
theorem exists_default (s : Setting) :
    ∃ d, at? (.map defaultLayer) s.place = some d ∧
      ∀ home stage', s.shape home stage' d = .good (s.fallback stage') := by
  cases s with
  | requestTimeout => exact ⟨.float halfMinute, rfl, fun _ _ => meeting_eq_good_iff.mpr ⟨rfl, isNotBelowOrZero_halfMinute⟩⟩
  | searchDeadline => exact ⟨.float halfMinute, rfl, fun _ _ => meeting_eq_good_iff.mpr ⟨rfl, isNotBelowOrZero_halfMinute⟩⟩
  | _ => exact ⟨_, rfl, fun _ _ => rfl⟩

variable {layer out : Entries}

/-- The settings that are not listed have in a layer in sections what the layer has in their own spellings. -/
theorem at?_sectioned_place (h : Layer.sectioned layer = .ok out) {s : Setting} (hs : s ≠ endpoints) :
    at? (.map out) s.place = spelled s.ownSpellings layer := by
  rw [spelled, ownSpellings, List.findSome?_append, List.findSome?_singleton, flatName?]
  rcases s.isPlace_place with ⟨t, ht, n, hplace⟩ | ⟨t, ht, hplace⟩
  · simp only [hplace]
    rw [Layer.at?_sectioned_setting h ht]
    cases Layer.flatName? t n with
    | none => rfl
    | some flat => rw [Option.toList_some, List.map_singleton, List.findSome?_singleton, at?_singleton]; rfl
  · simp only [hplace]
    have hgeneral : t ∈ ["app_name", "environment"] := by
      cases s <;> first | exact absurd rfl hs | (cases hplace <;> decide)
    rw [at?_singleton, at?_singleton, Layer.lookup?_sectioned_general h hgeneral]
    rfl

/-- What a layer in sections has for a setting is read as what the layer has in its own spellings. -/
theorem map_shape_at?_sectioned (h : Layer.sectioned layer = .ok out) (s : Setting) :
    (at? (.map out) s.place).map (s.shape home stage') = (spelled s.ownSpellings layer).map (s.shape home stage') := by
  by_cases hs : s = endpoints
  · subst hs
    have hspelled : spelled endpoints.ownSpellings layer = lookup? (text "torznab_endpoints") layer :=
      (List.findSome?_singleton).trans (at?_singleton _ _)
    have hlisted := Layer.listed?_of_sectioned h
    rw [hspelled, place, at?_singleton]
    rw [Layer.listed?] at hlisted
    cases hd : lookup? (text "torznab_endpoints") layer with
    | none =>
        rw [hd] at hlisted
        rw [← Except.ok.inj hlisted]
    | some d =>
        rw [hd] at hlisted
        cases he : Layer.endpoints d with
        | error f => simp [he, Except.map] at hlisted
        | ok e =>
            obtain ⟨ds, rfl⟩ := Layer.exists_list_of_endpoints he
            simp only [he, Except.map] at hlisted
            rw [← Except.ok.inj hlisted, Option.map_some, Option.map_some]
            change some ((Shaped.ofExcept (Layer.endpoints (.list ds))).andThen (list Endpoint.shape)) =
              some ((Shaped.ofExcept (Layer.endpoints d)).andThen (list Endpoint.shape))
            rw [he, Layer.endpoints_list]
  · rw [at?_sectioned_place h hs]

end Setting

/-! ## The stack of layers -/

theorem isSectioned_defaultLayer : Layer.IsSectioned defaultLayer := by
  have hmaps : ∀ name ∈ Layer.sections,
      (lookup? (text name) defaultLayer).all (fun d => d.entries?.isSome) = true := by decide
  intro name hname d hd
  have hmap := hmaps name hname
  rw [hd] at hmap
  cases d <;> simp [entries?] at hmap ⊢

/-- The layers that are laid over the defaults when what is said can be written in sections. -/
structure Layers.Written (layers : Layers) (file vars commandLine : Entries) : Prop where
  file : Layer.sectioned layers.file = .ok file
  vars : variableLayer layers.vars = .good vars
  commandLine : Layer.sectioned layers.commandLine = .ok commandLine
  properFile : Proper (.map layers.file)
  properCommandLine : Proper (.map layers.commandLine)

namespace Layers.Written

variable {layers : Layers} {file vars commandLine : Entries}

theorem isSectioned (h : layers.Written file vars commandLine) :
    ∀ layer ∈ [file, vars, commandLine], Layer.IsSectioned layer ∧ Proper (.map layer) := by
  simp only [List.forall_mem_cons]
  exact ⟨⟨.of_sectioned h.file, Layer.proper_sectioned h.properFile h.file⟩, isSectioned_variableLayer h.vars,
    ⟨.of_sectioned h.commandLine, Layer.proper_sectioned h.properCommandLine h.commandLine⟩, by simp⟩

/-- No flat names are left in the stack. -/
theorem lookup?_flat (h : layers.Written file vars commandLine) :
    ∀ flat ∈ Layer.flatNames, lookup? (text flat.1) (Layer.stacked defaultLayer [file, vars, commandLine]) = none := by
  intro flat hflat
  have hnames : ∀ flat ∈ Layer.flatNames, flat.1 ∉ Layer.topNames ∧ (lookup? (text flat.1) defaultLayer).isNone = true := by
    decide
  obtain ⟨hname, hdefault⟩ := hnames flat hflat
  obtain ⟨hfile, hvars, hcommandLine, -⟩ := by simpa only [List.forall_mem_cons] using h.isSectioned
  rw [Layer.stacked, List.foldl_cons, List.foldl_cons, List.foldl_cons, List.foldl_nil,
    lookup?_overlayEntries hcommandLine.2.distinct, lookup?_overlayEntries hvars.2.distinct,
    lookup?_overlayEntries hfile.2.distinct, Layer.lookup?_sectioned_other h.commandLine hname,
    lookup?_variableLayer_other h.vars hname, Layer.lookup?_sectioned_other h.file hname]
  exact Option.isNone_iff_eq_none.mp hdefault

/-- **What the stack has for a setting** is what the highest layer has at its place. -/
theorem at?_place (h : layers.Written file vars commandLine) {s : Setting}
    (hplain : NoMap (at? (.map (Layer.stacked defaultLayer [file, vars, commandLine])) s.place)) :
    at? (.map (Layer.stacked defaultLayer [file, vars, commandLine])) s.place =
      (at? (.map commandLine) s.place).or ((inVariables? layers.vars s.place).or
        ((at? (.map file) s.place).or (at? (.map defaultLayer) s.place))) := by
  obtain ⟨lower, heq⟩ := Layer.exists_at?_stacked isSectioned_defaultLayer h.isSectioned s.isPlace_place
  rw [heq] at hplain ⊢
  rw [hplain.of_map_overlay.map_overlay lower, ← at?_variableLayer h.vars s.isPlace_place]
  simp only [List.reverse_cons, List.reverse_nil, List.nil_append, List.cons_append, List.findSome?_cons,
    List.findSome?_nil]
  cases at? (.map commandLine) s.place <;> cases at? (.map vars) s.place <;> cases at? (.map file) s.place <;>
    cases at? (.map defaultLayer) s.place <;> rfl

/-- The defaults have something at every place. -/
theorem inDocument_eq (h : layers.Written file vars commandLine) (s : Setting) :
    s.inDocument (Layer.stacked defaultLayer [file, vars, commandLine]) =
      at? (.map (Layer.stacked defaultLayer [file, vars, commandLine])) s.place := by
  obtain ⟨lower, heq⟩ := Layer.exists_at?_stacked isSectioned_defaultLayer h.isSectioned s.isPlace_place
  obtain ⟨d, hdefault, -⟩ := s.exists_default
  have hthere : (([file, vars, commandLine].reverse ++ [defaultLayer]).findSome? fun layer =>
      at? (.map layer) s.place).isSome := by
    rw [List.findSome?_isSome_iff]
    exact ⟨defaultLayer, by simp, by rw [hdefault]; rfl⟩
  obtain ⟨e, he⟩ := Option.isSome_iff_exists.mp hthere
  rw [Setting.inDocument, List.findSome?_cons, heq, he]
  rfl

/-- **Every setting follows the highest layer that sets it at its own place.** -/
theorem follows_latestOwn (h : layers.Written file vars commandLine) {home : Option String} {c : Config}
    (hc : Config.shape home (.map (Layer.stacked defaultLayer [file, vars, commandLine])) = .good c) (s : Setting) :
    s.Follows home c (s.latestOwn layers) := by
  obtain ⟨hplain, hread⟩ := Setting.reads (shape_eq_good_iff.mp hc) h.lookup?_flat s
  rw [h.inDocument_eq] at hplain hread
  rw [h.at?_place hplain] at hread
  obtain ⟨d, hdefault, hshape⟩ := s.exists_default
  rw [Setting.Follows, ← hread, Setting.latestOwn, Setting.highest, Setting.reading, Setting.reading, orDefault, orDefault,
    hdefault]
  simp only [Option.map_or, Setting.map_shape_at?_sectioned h.file, Setting.map_shape_at?_sectioned h.commandLine,
    Option.map_some, hshape]
  cases (Setting.spelled s.ownSpellings layers.commandLine).map (s.shape home c.stage) <;>
    cases (inVariables? layers.vars s.place).map (s.shape home c.stage) <;>
      cases (Setting.spelled s.ownSpellings layers.file).map (s.shape home c.stage) <;> rfl

end Layers.Written

/-! ## Single sites -/

/-- What a layer has for single sites; what is no map says nothing. -/
def Layer.sites (layer : Entries) : Datum :=
  match lookup? (text "indexers") layer with
  | some (.map entries) => .map entries
  | _ => .map []

/-- No other key of a map than the text itself is read as a name. -/
def IsSpelled (name : String) (d : Datum) : Prop :=
  ∀ entries, d = .map entries → ∀ entry ∈ entries, Shape.text entry.1 = .good name → entry.1 = .text name

theorem IsSpelled.overlay {name : String} (l u : Datum) (hl : IsSpelled name l) (hu : IsSpelled name u) :
    IsSpelled name (overlay l u) := by
  intro entries heq entry hentry hread
  cases u with
  | map more =>
      cases l with
      | map under =>
          rw [Datum.overlay] at heq
          rcases key_of_mem_overlayEntries (Datum.map.inj heq ▸ hentry) with hkey | hkey
          · obtain ⟨entry', hentry', hsame⟩ := List.mem_map.mp hkey
            exact hsame ▸ hl under rfl entry' hentry' (hsame ▸ hread)
          · obtain ⟨entry', hentry', hsame⟩ := List.mem_map.mp hkey
            exact hsame ▸ hu more rfl entry' hentry' (hsame ▸ hread)
      | _ => exact hu entries heq entry hentry hread
  | _ => exact hu entries heq entry hentry hread

/-- What is set for a site, from the map of all sites. -/
theorem override_reads {sites : Entries} {overrides : List (String × Override)} {id : String}
    (h : table text Override.shape (.map sites) = .good overrides) (hsites : Distinct sites)
    (hid : IsSpelled id (.map sites)) :
    orDefault truth true (at? (.map sites) [id, "enabled"]) = .good ((overrides.lookup id).getD {}).enabled ∧
      orDefault (orNull whole) none (at? (.map sites) [id, "priority"]) = .good ((overrides.lookup id).getD {}).priority ∧
      orDefault (table text anything) [] (at? (.map sites) [id, "settings"]) =
        .good ((overrides.lookup id).getD {}).settings := by
  have hfound := lookup_table h hsites (hid sites rfl)
  rw [at?_map, at?_map, at?_map]
  cases hd : lookup? (.text id) sites with
  | none =>
      simp only [hd] at hfound
      rw [hfound]
      exact ⟨rfl, rfl, rfl⟩
  | some d =>
      simp only [hd] at hfound
      obtain ⟨o, ho, hlookup⟩ := hfound
      obtain ⟨fields, rfl, hread⟩ := record_eq_good_iff.mp ho
      simp only [Shaped.seq_eq_good_iff, Shaped.fmap_eq_good_iff, field_eq_good_iff, ← at?_singleton] at hread
      obtain ⟨_, _, ⟨_, _, ⟨_, henabled, rfl⟩, hpriority, rfl⟩, hsettings, rfl⟩ := hread
      rw [hlookup]
      exact ⟨henabled, hpriority, hsettings⟩

/-- What a setting of a site holds at a path, from the map of all its settings. -/
theorem settings_reads {d : Option Datum} {settings : List (String × Datum)} {name : String}
    (h : orDefault (table text anything) [] d = .good settings) (hproper : ∀ e, d = some e → Proper e)
    (hname : ∀ e, d = some e → IsSpelled name e) (path : List String) :
    (settings.lookup name).bind (at? · path) = d.bind (at? · (name :: path)) := by
  cases d with
  | none =>
      obtain rfl : [] = settings := Shaped.good.inj h
      rfl
  | some d =>
      cases d with
      | map entries =>
          have hfound := lookup_table h (hproper _ rfl).distinct (hname _ rfl entries rfl)
          rw [Option.bind_some, at?_map]
          cases hd : lookup? (.text name) entries with
          | none =>
              simp only [hd] at hfound
              rw [hfound]
          | some e =>
              simp only [hd] at hfound
              obtain ⟨_, he, hlookup⟩ := hfound
              obtain rfl := Shaped.good.inj he
              rw [hlookup]
      | _ => cases h

theorem Layer.exists_sites (layer : Entries) : ∃ entries, Layer.sites layer = .map entries := by
  rw [Layer.sites]
  split
  · exact ⟨_, rfl⟩
  · exact ⟨[], rfl⟩

theorem Layer.proper_sites {layer : Entries} (h : Proper (.map layer)) : Proper (Layer.sites layer) := by
  rw [Layer.sites]
  split
  · exact h.of_lookup? ‹_›
  · exact Proper.nil

/-- A layer in sections lays its sites over those below. -/
theorem Layer.lookup?_indexers {layer out lower : Entries} {d : Datum} (hlower : lookup? (text "indexers") lower = some d)
    (hd : ∃ entries, d = .map entries) (h : Layer.sectioned layer = .ok out) (hproper : Proper (.map out)) :
    lookup? (text "indexers") (overlayEntries lower out) = some (overlay d (Layer.sites layer)) := by
  obtain ⟨entries, rfl⟩ := hd
  rw [lookup?_overlayEntries hproper.distinct, Layer.lookup?_sectioned_section h (by decide), hlower, Layer.sites]
  cases lookup? (text "indexers") layer with
  | none => rfl
  | some u => cases u <;> rfl

/-- What is said about sites, the command line's before the file's. -/
def Layers.sites (layers : Layers) : List Datum :=
  [Layer.sites layers.commandLine, Layer.sites layers.file]

namespace Layers.Written

variable {layers : Layers} {file vars commandLine : Entries}

/-- The stack has the sites of the file under those of the command line. -/
theorem lookup?_indexers (h : layers.Written file vars commandLine) :
    lookup? (text "indexers") (Layer.stacked defaultLayer [file, vars, commandLine]) =
      some (layers.sites.reverse.foldl overlay (.map [])) := by
  obtain ⟨hfile, hvars, hcommandLine, -⟩ := by simpa only [List.forall_mem_cons] using h.isSectioned
  have hmap : ∃ entries, overlay (.map []) (Layer.sites layers.file) = .map entries := by
    obtain ⟨entries, heq⟩ := Layer.exists_sites layers.file
    exact ⟨overlayEntries [] entries, by rw [heq, overlay]⟩
  have hdefault : lookup? (text "indexers") defaultLayer = some (.map []) := rfl
  have hunder := Layer.lookup?_indexers hdefault ⟨[], rfl⟩ h.file hfile.2
  have hbetween : lookup? (text "indexers") (overlayEntries (overlayEntries defaultLayer file) vars) =
      some (overlay (.map []) (Layer.sites layers.file)) := by
    rw [lookup?_overlayEntries hvars.2.distinct, lookup?_variableLayer_indexers h.vars, hunder]
  exact Layer.lookup?_indexers hbetween hmap h.commandLine hcommandLine.2

theorem proper_sites (h : layers.Written file vars commandLine) : ∀ d ∈ layers.sites.reverse, Proper d := by
  intro d hd
  rcases List.mem_cons.mp (List.mem_reverse.mp hd) with rfl | hd
  · exact Layer.proper_sites h.properCommandLine
  · exact List.mem_singleton.mp hd ▸ Layer.proper_sites h.properFile

/-- What the stack has for sites makes up a map, and the configuration has the table that it is read as. -/
theorem exists_table (h : layers.Written file vars commandLine) {home : Option String} {c : Config}
    (hc : Config.shape home (.map (Layer.stacked defaultLayer [file, vars, commandLine])) = .good c) :
    ∃ sites, layers.sites.reverse.foldl overlay (.map []) = .map sites ∧ Proper (.map sites) ∧
      table text Override.shape (.map sites) = .good c.overrides := by
  obtain ⟨upper, hupper⟩ := Layer.exists_sites layers.commandLine
  obtain ⟨under, hunder⟩ := Layer.exists_sites layers.file
  have hmap : layers.sites.reverse.foldl overlay (.map []) = .map (overlayEntries (overlayEntries [] under) upper) := by
    simp only [Layers.sites, List.reverse_cons, List.reverse_nil, List.nil_append, List.cons_append, List.foldl_cons,
      List.foldl_nil, hupper, hunder, overlay]
  have hproper := Proper.nil.foldl_overlay h.proper_sites
  have hread := (shape_eq_good_iff.mp hc).overrides
  rw [h.lookup?_indexers, orDefault_some] at hread
  rw [hmap] at hread hproper
  refine ⟨_, hmap, hproper, ?_⟩
  rw [overridesShape] at hread
  split at hread
  · exact hread
  · rename_i hempty
    obtain hnil : overlayEntries (overlayEntries [] under) upper = [] := by
      simpa [isTruthy] using hempty
    rw [hnil]
    exact hread

/-- **Every setting of a site follows the highest layer that sets it.**  A map among the site's own settings is laid over
what the layers below have there. -/
theorem site_follows (h : layers.Written file vars commandLine) {home : Option String} {c : Config}
    (hc : Config.shape home (.map (Layer.stacked defaultLayer [file, vars, commandLine])) = .good c) {id : String}
    (hid : ∀ d ∈ layers.sites, IsSpelled id d) :
    orDefault truth true (topmost? [id, "enabled"] layers.sites) = .good (c.override id).enabled ∧
      orDefault (orNull whole) none (topmost? [id, "priority"] layers.sites) = .good (c.override id).priority ∧
      ∀ name path, (∀ d ∈ layers.sites, ∀ e, at? d [id, "settings"] = some e → IsSpelled name e) →
        ∃ lower, ((c.override id).settings.lookup name).bind (at? · path) =
          (topmost? (id :: "settings" :: name :: path) layers.sites).map (overlay lower) := by
  obtain ⟨sites, hmap, hproper, htable⟩ := h.exists_table hc
  have hstack : ∀ path, ∃ lower, at? (.map sites) (id :: path) =
      (topmost? (id :: path) layers.sites).map (overlay lower) := by
    intro path
    obtain ⟨lower, heq⟩ := exists_at?_foldl_overlay (.map []) h.proper_sites (id :: path)
    rw [List.reverse_reverse, topmost?_append_silent rfl, hmap] at heq
    exact ⟨lower, heq⟩
  have hspelled : ∀ {name : String} {path : List String},
      (∀ d ∈ layers.sites, ∀ e, at? d path = some e → IsSpelled name e) →
        (∀ e, at? (.map []) path = some e → IsSpelled name e) → ∀ e, at? (.map sites) path = some e → IsSpelled name e := by
    intro name path hall hbase e he
    rw [← hmap] at he
    exact at?_foldl_overlay_induction IsSpelled.overlay h.proper_sites
      (List.forall_mem_cons.mpr ⟨hbase, fun d hd => hall d (List.mem_reverse.mp hd)⟩) he
  have hsame : ∀ d e, at? d [] = some e → d = e := fun d e he => Option.some.inj ((at?_nil d).symm.trans he)
  have hsiteName : IsSpelled id (.map sites) := by
    refine @hspelled id [] (fun d hd e he => hsame d e he ▸ hid d hd) (fun e he => ?_) _ (at?_nil _)
    rw [← hsame _ e he]
    intro entries hentries entry hentry
    cases hentries
    cases hentry
  obtain ⟨henabled, hpriority, hsettings⟩ := override_reads htable hproper.distinct hsiteName
  have hflag : ∀ {α : Type} {shape : Shape α} {fallback a : α} {path : List String},
      (∀ entries a, shape (.map entries) ≠ .good a) → orDefault shape fallback (at? (.map sites) (id :: path)) = .good a →
        orDefault shape fallback (topmost? (id :: path) layers.sites) = .good a := by
    intro α shape fallback a path hshape hread
    obtain ⟨lower, heq⟩ := hstack path
    have hplain := noMap_of_orDefault hshape hread
    rw [heq] at hplain
    rwa [heq, hplain.of_map_overlay.map_overlay] at hread
  refine ⟨hflag (fun _ _ => nofun) henabled, hflag (fun _ _ => nofun) hpriority, fun name path hname => ?_⟩
  obtain ⟨lower, heq⟩ := hstack ("settings" :: name :: path)
  refine ⟨lower, ?_⟩
  have hbelow : at? (.map sites) (id :: "settings" :: name :: path) =
      (at? (.map sites) [id, "settings"]).bind (at? · (name :: path)) := at?_append _ [id, "settings"] _
  rw [← heq, hbelow]
  exact settings_reads hsettings (fun e he => hproper.of_at? he) (hspelled hname fun e he => nomatch he) path

end Layers.Written

/-! ## Configurations that are loaded -/

/-- What a configuration has to do with what is said over the defaults. -/
structure Obeys (c : Config) (layers : Layers) : Prop where
  /-- A setting has the value that the highest layer gives it that sets it, in whatever spelling, or else its default. -/
  settings : ∀ s : Setting, s ≠ .cacheDirectory → s.Follows (homeOf? layers.vars) c (s.latest layers)
  /-- The directory of the cache has the value that the highest layer gives it that does not call it `directory`. -/
  ownDirectory : Setting.cacheDirectory.Follows (homeOf? layers.vars) c (Setting.cacheDirectory.latestOwn layers)
  /-- It has the value that the highest layer gives it in any spelling exactly where both come to the same. -/
  directory : Setting.cacheDirectory.Follows (homeOf? layers.vars) c (Setting.cacheDirectory.latest layers) ↔
    Setting.cacheDirectory.reading (homeOf? layers.vars) c.stage (Setting.cacheDirectory.latest layers) =
      Setting.cacheDirectory.reading (homeOf? layers.vars) c.stage (Setting.cacheDirectory.latestOwn layers)
  /-- Whether a site is searched is what the highest layer says that says it. -/
  enabled : ∀ id, (∀ d ∈ layers.sites, IsSpelled id d) →
    orDefault truth true (topmost? [id, "enabled"] layers.sites) = .good (c.override id).enabled
  /-- So is its priority. -/
  priority : ∀ id, (∀ d ∈ layers.sites, IsSpelled id d) →
    orDefault (orNull whole) none (topmost? [id, "priority"] layers.sites) = .good (c.override id).priority
  /-- So is what the site's own settings hold at any path; a map is laid over what the layers below have there. -/
  siteSettings : ∀ id, (∀ d ∈ layers.sites, IsSpelled id d) → ∀ name path,
    (∀ d ∈ layers.sites, ∀ e, at? d [id, "settings"] = some e → IsSpelled name e) →
      ∃ lower, ((c.override id).settings.lookup name).bind (at? · path) =
        (topmost? (id :: "settings" :: name :: path) layers.sites).map (overlay lower)

theorem Setting.latest_eq_latestOwn {s : Setting} (hs : s ≠ .cacheDirectory) (layers : Layers) :
    s.latest layers = s.latestOwn layers := by
  rw [latest, latestOwn, otherPlaces_of_ne hs, List.append_nil]

/-- What a configuration is loaded from. -/
theorem exists_written_of_load {file variableFile : Source} {vars : Variables} {commandLine : Entries} {c : Config}
    (h : load file variableFile vars commandLine = .ok c) (hproper : Proper (.map commandLine)) :
    ∃ layers : Layers, file.settings = .ok layers.file ∧ withVariableFile vars variableFile = .ok layers.vars ∧
      layers.commandLine = commandLine ∧ ∃ file' vars' commandLine', layers.Written file' vars' commandLine' ∧
        Config.shape (homeOf? layers.vars) (.map (Layer.stacked defaultLayer [file', vars', commandLine'])) = .good c := by
  obtain ⟨vars', settings, file', variables', commandLine', hvars, hsettings, hfile, hvariables, hcommandLine, hc⟩ :=
    exists_of_load h
  exact ⟨⟨settings, vars', commandLine⟩, hsettings, hvars, rfl, file', variables', commandLine',
    ⟨hfile, hvariables, hcommandLine, Source.proper_settings hsettings, hproper⟩, hc⟩

/-- **A configuration that is loaded obeys its layers.** -/
theorem exists_obeys_of_load {file variableFile : Source} {vars : Variables} {commandLine : Entries} {c : Config}
    (h : load file variableFile vars commandLine = .ok c) (hproper : Proper (.map commandLine)) :
    ∃ layers : Layers, file.settings = .ok layers.file ∧ withVariableFile vars variableFile = .ok layers.vars ∧
      layers.commandLine = commandLine ∧ c.Obeys layers := by
  obtain ⟨layers, hfile, hvars, hcommandLine, file', vars', commandLine', hwritten, hc⟩ := exists_written_of_load h hproper
  have hown := hwritten.follows_latestOwn hc
  refine ⟨layers, hfile, hvars, hcommandLine, ?_⟩
  constructor
  case settings =>
    intro s hs
    rw [Setting.latest_eq_latestOwn hs]
    exact hown s
  case ownDirectory => exact hown .cacheDirectory
  case directory =>
    have hdirectory := hown .cacheDirectory
    rw [Setting.Follows] at hdirectory ⊢
    rw [hdirectory]
  case enabled => exact fun id hid => (hwritten.site_follows hc hid).1
  case priority => exact fun id hid => (hwritten.site_follows hc hid).2.1
  case siteSettings => exact fun id hid => (hwritten.site_follows hc hid).2.2

/-- A file with a setting outside of its section, and one for a site. -/
def mixedFile : List UInt8 := "log_level: WARNING
indexers: \x7ba: \x7benabled: no\x7d\x7d".toUTF8.toList

/-- Variables that set the level of the log and the address of a solver. -/
def mixedVariables : Variables :=
  [("TRAWLARR_LOG_LEVEL", "ERROR"), ("FLARESOLVERR_URL", "http://solver:8191")]

/-- A command line that sets the priority of the site. -/
def mixedCommandLine : Entries :=
  [(.text "indexers", .object [("a", .object [("priority", .int 9)])])]

/-- All three layers at once. -/
theorem exists_obeys_of_load_mixed :
    ∃ c layers, load (.bytes mixedFile) .unnamed mixedVariables mixedCommandLine = .ok c ∧ c.Obeys layers ∧
      c.logLevel = .error ∧ c.solver.enabled = true ∧ (c.override "a").enabled = false ∧
      (c.override "a").priority = some 9 := by
  have hpriority : Proper (.object [("priority", .int 9)]) := .fields (by decide) (by simpa using .plain rfl)
  have hsite : Proper (.object [("a", .object [("priority", .int 9)])]) := .fields (by decide) (by simpa using hpriority)
  have hproper : Proper (.map mixedCommandLine) := Proper.nil.insert _ hsite
  have hloaded : (load (.bytes mixedFile) .unnamed mixedVariables mixedCommandLine).toOption.map (fun c =>
      (c.logLevel, c.solver.enabled, (c.override "a").enabled, (c.override "a").priority)) =
      some (.error, true, false, some 9) := by decide +kernel
  obtain ⟨c, hload, hfound⟩ := exists_of_map_toOption hloaded
  obtain ⟨layers, -, -, -, hobeys⟩ := exists_obeys_of_load hload hproper
  exact ⟨c, layers, hload, hobeys, by simpa only [Prod.mk.injEq] using hfound⟩

/-- A file that sets the directory of the cache under its other name. -/
def directoryFile : List UInt8 := "cache: \x7bdirectory: /srv/cache\x7d".toUTF8.toList

/-- The layers of that file alone. -/
def directoryLayers : Layers where
  file := [(.text "cache", .object [("directory", .text "/srv/cache")])]
  vars := []
  commandLine := []

/-- **What a file sets under the other name has no effect**: the default, which no layer sets, counts. -/
theorem load_directory_ignored :
    (Source.bytes directoryFile).settings = .ok directoryLayers.file ∧
      Setting.cacheDirectory.latest directoryLayers = some (.text "/srv/cache") ∧
      ∃ c, load (.bytes directoryFile) .unnamed directoryLayers.vars directoryLayers.commandLine = .ok c ∧
        c.cache.directory = ".cache/trawlarr" ∧
        ¬ Setting.cacheDirectory.Follows (homeOf? directoryLayers.vars) c
          (Setting.cacheDirectory.latest directoryLayers) := by
  have hlatest : Setting.cacheDirectory.latest directoryLayers = some (.text "/srv/cache") := by decide +kernel
  have hloaded : (load (.bytes directoryFile) .unnamed directoryLayers.vars directoryLayers.commandLine).toOption.map
      (·.cache.directory) = some ".cache/trawlarr" := by decide +kernel
  have hread : path none (.text "/srv/cache") = .good "/srv/cache" := by rfl
  obtain ⟨c, hload, hdirectory⟩ := exists_of_map_toOption hloaded
  refine ⟨by decide +kernel, hlatest, c, hload, hdirectory, fun hfollows => ?_⟩
  have hsame : path none (.text "/srv/cache") = .good c.cache.directory := by
    rw [hlatest] at hfollows
    exact hfollows
  rw [hread, hdirectory] at hsame
  exact absurd (Shaped.good.inj hsame) (by decide)

end MetaSearch.Config
