import MetaSearch.Proofs.Site.Loaded
import MetaSearch.Search.Catalog

/-!
# What a catalog lists

The sites of a registry have identifiers of their own, for of two definitions with one identifier only the first was taken
in (`Registry.nodup_ofFiles`).  Endpoints come as they are configured.  `Registry.listing` is the list in which no
identifier stands twice: the sites that are not switched off, and behind them each endpoint under an identifier that is not
listed yet.

A catalog looks out for the identifiers of sites only.  `Registry.catalog_listed_iff` says when that is enough.
-/

namespace MetaSearch

namespace Registry

/-- Definitions keep identifiers of their own when a file is taken in. -/
theorem nodup_enrol {r r' : Registry} {file : SourceFile} (h : (r.definitions.map (·.id)).Nodup)
    (hstep : r.enrol file = .ok r') : (r'.definitions.map (·.id)).Nodup := by
  rcases enrol_cases hstep with ⟨reasons, rfl, -⟩ | ⟨d, -, habsent, rfl⟩
  · exact h
  · rw [List.map_append, List.map_singleton, List.nodup_append]
    refine ⟨h, by simp, fun id hid id' hid' heq => ?_⟩
    obtain ⟨e, he, rfl⟩ := List.mem_map.mp hid
    rw [List.mem_singleton.mp hid'] at heq
    have hother := List.find?_eq_none.mp habsent e he
    exact hother (beq_iff_eq.mpr heq)

/-- The definitions of a loaded registry have identifiers of their own. -/
theorem nodup_ofFiles {files : List SourceFile} {r : Registry} (h : ofFiles files = .ok r) :
    (r.definitions.map (·.id)).Nodup := by
  have hrun : ∀ (files : List SourceFile) (r r' : Registry), (r.definitions.map (·.id)).Nodup →
      files.foldlM enrol r = .ok r' → (r'.definitions.map (·.id)).Nodup := by
    intro files
    induction files with
    | nil =>
        intro r r' hr hrun
        rw [← Except.ok.inj hrun]
        exact hr
    | cons file files ih =>
        intro r r' hr hrun
        rw [List.foldlM_cons] at hrun
        cases hstep : r.enrol file with
        | error f => simp [hstep, bind, Except.bind] at hrun
        | ok next =>
            rw [hstep] at hrun
            exact ih next r' (nodup_enrol hr hstep) hrun
  exact hrun _ {} _ List.nodup_nil h

/-! ## Listing without repetition -/

/-- An endpoint behind what is listed, unless its identifier is listed already. -/
def listNew (listed : List Indexer) (e : Endpoint) : List Indexer :=
  if e.id ∈ listed.map Indexer.id then listed else listed ++ [.endpoint e]

/-- The sites that are not switched off, and behind them the enabled endpoints, each unless its identifier is listed
already. -/
def listing (r : Registry) (c : Config) : List Indexer :=
  (c.endpoints.filter (·.enabled)).foldl listNew (r.sites c)

/-- The enabled endpoints under the identifier of no listed site. -/
def unshadowed (r : Registry) (c : Config) : List Endpoint :=
  (c.endpoints.filter (·.enabled)).filter fun e => !((r.sites c).map Indexer.id).contains e.id

/-- What is listed keeps identifiers of its own. -/
theorem nodup_foldl_listNew {listed : List Indexer} (h : (listed.map Indexer.id).Nodup) (endpoints : List Endpoint) :
    ((endpoints.foldl listNew listed).map Indexer.id).Nodup := by
  induction endpoints generalizing listed with
  | nil => exact h
  | cons e endpoints ih =>
      rw [List.foldl_cons]
      refine ih ?_
      unfold listNew
      split
      · exact h
      · rename_i hnew
        rw [List.map_append, List.map_singleton, List.nodup_append]
        refine ⟨h, by simp, fun id hid id' hid' heq => hnew ?_⟩
        rw [List.mem_singleton.mp hid'] at heq
        rw [heq] at hid
        exact hid

/-- Endpoints that have identifiers of their own are all listed unless what was listed before has them. -/
theorem foldl_listNew_eq {listed : List Indexer} {endpoints : List Endpoint}
    (h : ((endpoints.filter fun e => !(listed.map Indexer.id).contains e.id).map (·.id)).Nodup) :
    endpoints.foldl listNew listed =
      listed ++ (endpoints.filter fun e => !(listed.map Indexer.id).contains e.id).map Indexer.endpoint := by
  induction endpoints generalizing listed with
  | nil => simp
  | cons e endpoints ih =>
      rw [List.foldl_cons]
      by_cases hlisted : e.id ∈ listed.map Indexer.id
      · have hskip : (!(listed.map Indexer.id).contains e.id) = false := by
          rw [List.contains_iff_mem.mpr hlisted, Bool.not_true]
        rw [List.filter_cons_of_neg (by rw [hskip]; decide)] at h ⊢
        rw [listNew, if_pos hlisted]
        exact ih h
      · have htake : (!(listed.map Indexer.id).contains e.id) = true := by
          rw [Bool.not_eq_true', ← Bool.not_eq_true, List.contains_iff_mem]
          exact hlisted
        rw [List.filter_cons_of_pos (by exact htake)] at h ⊢
        rw [List.map_cons, List.nodup_cons] at h
        -- none of the endpoints behind has the identifier that is listed now
        have hbehind : (endpoints.filter fun e' => !((listed ++ [Indexer.endpoint e]).map Indexer.id).contains e'.id) =
            endpoints.filter fun e' => !(listed.map Indexer.id).contains e'.id := by
          refine List.filter_congr fun e' he' => ?_
          rw [Bool.eq_iff_iff]
          simp only [Bool.not_eq_true', ← Bool.not_eq_true, List.contains_iff_mem, List.map_append, List.map_singleton,
            List.mem_append, List.mem_singleton, not_or, and_iff_left_iff_imp]
          intro hnew hsame
          refine h.1 (List.mem_map.mpr ⟨e', List.mem_filter.mpr ⟨he', ?_⟩, hsame⟩)
          rw [Bool.not_eq_true', ← Bool.not_eq_true, List.contains_iff_mem]
          exact hnew
        rw [listNew, if_neg hlisted, ih (by rw [hbehind]; exact h.2), hbehind, List.map_cons, List.append_assoc,
          List.singleton_append]

/-! ## What is listed -/

/-- The listed sites are the definitions that are not switched off, in the order of the registry. -/
theorem sites_eq (r : Registry) (c : Config) :
    r.sites c = (r.definitions.filter fun d => (c.override d.id).enabled).map fun d =>
      .site d (c.override d.id).priority (c.override d.id).settings := by
  unfold sites
  induction r.definitions with
  | nil => rfl
  | cons d definitions ih =>
      cases henabled : (c.override d.id).enabled with
      | true =>
          rw [List.filterMap_cons_some (by simp [henabled]; rfl), List.filter_cons_of_pos (by exact henabled), ih,
            List.map_cons]
      | false =>
          rw [List.filterMap_cons_none (by simp [henabled]), List.filter_cons_of_neg (by simp [henabled]), ih]

/-- The listed sites have identifiers of their own. -/
theorem nodup_sites {r : Registry} (h : (r.definitions.map (·.id)).Nodup) (c : Config) :
    ((r.sites c).map Indexer.id).Nodup := by
  rw [sites_eq, List.map_map]
  exact (List.filter_sublist.map _).nodup h

/-- What is listed behind the sites. -/
theorem catalog_eq (r : Registry) (c : Config) : r.catalog c = r.sites c ++ (r.unshadowed c).map .endpoint :=
  rfl

/-- **When no identifier is listed twice.**  The sites of a loaded registry are listed in its order, each once.  Behind them
each enabled endpoint stands unless its identifier is listed already exactly where the endpoints that no site shadows have
identifiers of their own; the catalog keeps endpoints apart from sites, and not from one another. -/
theorem catalog_listed_iff {files : List SourceFile} {r : Registry} (h : ofFiles files = .ok r) (c : Config) :
    (r.sites c = (r.definitions.filter fun d => (c.override d.id).enabled).map fun d =>
      .site d (c.override d.id).priority (c.override d.id).settings) ∧
    ((r.sites c).map Indexer.id).Nodup ∧
    (((r.catalog c).map Indexer.id).Nodup ∧ r.catalog c = r.listing c ↔ ((r.unshadowed c).map (·.id)).Nodup) := by
  have hsites := nodup_sites (nodup_ofFiles h) c
  refine ⟨r.sites_eq c, hsites, fun hlisted => ?_, fun hnodup => ?_⟩
  · have hnodup := hlisted.1
    rw [catalog_eq, List.map_append, List.map_map] at hnodup
    exact (List.nodup_append.mp hnodup).2.1
  · have hlisting : r.catalog c = r.listing c := by
      rw [catalog_eq, listing, foldl_listNew_eq hnodup, unshadowed]
    refine ⟨?_, hlisting⟩
    rw [hlisting]
    exact nodup_foldl_listNew hsites _

/-! ## Two catalogs -/

/-- An endpoint. -/
def jackett : Endpoint where
  id := "jackett"
  name := "Jackett"
  url := "https://jackett.example/api"

/-- An endpoint in the shadow of a site, one that is switched off, and the same one switched on. -/
def threeEndpoints : Config where
  endpoints := [{ jackett with id := "a" }, { jackett with enabled := false }, jackett]

/-- A site shadows an endpoint, and an endpoint that is switched off stands in nobody's way. -/
theorem catalog_listed_three : ∃ r, ofFiles [Service.soundFile] = .ok r ∧
    (r.catalog threeEndpoints).map Indexer.id = ["a", "jackett"] ∧
    r.catalog threeEndpoints = r.listing threeEndpoints := by
  have hid : (Definition.ofFile Service.soundFile.bytes).toOption.map (·.id) = some "a" := by decide +kernel
  have hkind : Service.soundFile.isDefinition = true := by decide +kernel
  obtain ⟨d, hd, hname⟩ := exists_of_map_toOption hid
  have hload : ofFiles [Service.soundFile] = .ok { definitions := [d] } := by
    simp [ofFiles, SourceFile.inOrder, hkind, enrol, hd, find?]
  have hcatalog : (Registry.catalog { definitions := [d] } threeEndpoints) = [.site d none [], .endpoint jackett] := by
    simp [catalog, sites, threeEndpoints, Config.override, Indexer.id, hname, jackett]
  obtain ⟨-, -, hlisted⟩ := catalog_listed_iff hload threeEndpoints
  have hunshadowed : Registry.unshadowed { definitions := [d] } threeEndpoints = [jackett] := by
    simp [unshadowed, sites, threeEndpoints, Config.override, Indexer.id, hname, jackett]
  refine ⟨_, hload, by simp [hcatalog, Indexer.id, hname, jackett], (hlisted.mpr ?_).2⟩
  rw [hunshadowed]
  decide

/-- Two endpoints with one identifier. -/
def twoEndpoints : Config where
  endpoints := [jackett, { jackett with url := "https://other.example/api" }]

/-- Two endpoints with one identifier are both listed. -/
theorem catalog_twice : ofFiles [] = .ok {} ∧
    (Registry.catalog {} twoEndpoints).map Indexer.id = ["jackett", "jackett"] ∧
    ¬ ((Registry.catalog {} twoEndpoints).map Indexer.id).Nodup ∧
    (Registry.listing {} twoEndpoints).map Indexer.id = ["jackett"] := by
  have hload : ofFiles [] = .ok {} := by
    simp [ofFiles, SourceFile.inOrder]
    rfl
  exact ⟨hload, rfl, by decide, by decide⟩

end Registry

end MetaSearch
