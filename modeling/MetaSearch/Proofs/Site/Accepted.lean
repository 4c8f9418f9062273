import MetaSearch.Proofs.Sequence.Distinct
import MetaSearch.Proofs.Shape.Read
import MetaSearch.Proofs.Text.Trimmed
import MetaSearch.Site.Query
import MetaSearch.Site.Reader

/-!
# What an accepted definition has

A document is read by its shape first, and what it is read as has to be free of defects then.  Together the two leave no
definition without something that a search of its site relies on (`Definition.Runnable`).

* `Draft.inked_of_shape` is what the shape is good for: no blanks around names and links, and no blank links.
* `Draft.defects_eq_nil_iff` is what it is to be free of defects.
* `Definition.runnable_of_ofDatum` puts the two together.
-/

namespace MetaSearch

/-- A definition has all that a search of its site relies on. -/
structure Definition.Runnable (d : Definition) : Prop where
  id : Text.strip d.id ≠ ""
  name : Text.strip d.name ≠ ""
  /-- There is somewhere to go. -/
  links : d.allLinks ≠ []
  /-- No link is tried twice. -/
  distinct : d.allLinks.Nodup
  inked : ∀ link ∈ d.allLinks, Text.strip link ≠ ""
  /-- There is something to ask for. -/
  paths : d.search.paths ≠ []
  requests : ∀ path ∈ d.search.paths, path.path ≠ "" ∧ (path.method = .get ∨ path.method = .post)
  selector : Text.strip d.search.rows.selector ≠ ""
  after : 0 ≤ d.search.rows.after
  fields : d.search.fields ≠ []

/-! ## By its shape -/

/-- Links that are read are not blank, and have no blanks around them. -/
theorem Form.inked_of_links {d : Datum} {links : List String} (h : Form.links d = .good links) :
    ∀ link ∈ links, Text.strip link ≠ "" := by
  obtain ⟨written, -, rfl⟩ := Shaped.map_eq_good_iff.mp h
  intro link hlink
  obtain ⟨hmem, hink⟩ := List.mem_filter.mp hlink
  obtain ⟨raw, -, rfl⟩ := List.mem_map.mp hmem
  rw [Text.strip_strip]
  simpa using hink

/-- What the shape of a definition is good for. -/
structure Draft.Inked (draft : Draft) : Prop where
  id : Text.strip draft.definition.id = draft.definition.id
  name : Text.strip draft.definition.name = draft.definition.name
  links : ∀ link ∈ draft.definition.links, Text.strip link ≠ ""
  legacyLinks : ∀ link ∈ draft.definition.legacyLinks, Text.strip link ≠ ""

/-- A draft that is read has neither blanks around its names nor blank links. -/
theorem Draft.inked_of_shape {doc : Datum} {draft : Draft} (h : Draft.shape doc = .good draft) : draft.Inked := by
  obtain ⟨entries, rfl, hread⟩ := Shape.record_eq_good_iff.mp h
  simp only [Shaped.seq_eq_good_iff, Shaped.fmap_eq_good_iff, Shape.field_eq_good_iff] at hread
  obtain ⟨_, search, ⟨_, caps, ⟨_, settings, ⟨_, legacyLinks, ⟨_, links, ⟨_, priority, ⟨_, protocol, ⟨_, encoding,
    ⟨_, privacyName, ⟨_, language, ⟨_, description, ⟨_, name, ⟨id, -, rfl⟩, -, rfl⟩, -, rfl⟩, -, rfl⟩, -, rfl⟩, -, rfl⟩,
    -, rfl⟩, -, rfl⟩, hlinks, rfl⟩, hlegacy, rfl⟩, -, rfl⟩, -, rfl⟩, -, rfl⟩ := hread
  have hinked : ∀ {d : Option Datum} {links : List String}, Shape.orDefault Form.links [] d = .good links →
      ∀ link ∈ links, Text.strip link ≠ "" := fun hlinks =>
    Shape.of_orDefault (motive := fun links : List String => ∀ link ∈ links, Text.strip link ≠ "") hlinks nofun
      fun _ _ => Form.inked_of_links
  exact ⟨Text.strip_strip id, Text.strip_strip name, hinked hlinks, hinked hlegacy⟩

/-! ## By its defects -/

namespace Draft

theorem reason_eq_nil_iff {holds : Bool} {text : String} : reason holds text = [] ↔ holds = false := by
  cases holds <;> simp [reason]

/-- A search is free of defects. -/
theorem searchDefects_eq_nil_iff {search : SearchRule} :
    searchDefects search = [] ↔
      search.paths ≠ [] ∧ (∀ path ∈ search.paths, path.path ≠ "") ∧ Text.strip search.rows.selector ≠ "" ∧
        0 ≤ search.rows.after ∧ search.fields ≠ [] := by
  have hpaths : (∀ path i, (path, i) ∈ search.paths.zipIdx → path.path ≠ "") ↔ ∀ path ∈ search.paths, path.path ≠ "" := by
    constructor
    · intro h path hpath
      rw [← List.zipIdx_map_fst 0 search.paths] at hpath
      obtain ⟨⟨path, i⟩, hnumbered, rfl⟩ := List.mem_map.mp hpath
      exact h path i hnumbered
    · intro h path i hnumbered
      exact h path (List.fst_mem_of_mem_zipIdx hnumbered)
  simp only [searchDefects, List.append_eq_nil_iff, List.flatMap_eq_nil_iff, Prod.forall, reason_eq_nil_iff,
    List.isEmpty_eq_false_iff, String.isEmpty_eq_false_iff, decide_eq_false_iff_not, Int.not_lt, and_assoc, hpaths]

/-- A draft is free of defects. -/
theorem defects_eq_nil_iff {draft : Draft} :
    draft.defects = [] ↔
      draft.definition.id ≠ "" ∧ draft.definition.name ≠ "" ∧ (Privacy.ofName? draft.privacyName).isSome = true ∧
        draft.definition.links ≠ [] ∧ searchDefects draft.definition.search = [] := by
  simp only [defects, List.append_eq_nil_iff, reason_eq_nil_iff, List.isEmpty_eq_false_iff,
    String.isEmpty_eq_false_iff, Option.isNone_eq_false_iff, and_assoc]

/-- A draft becomes a definition when it is free of defects, with what its word for access means. -/
theorem definition?_eq_ok {draft : Draft} {d : Definition} (h : draft.definition? = .ok d) :
    draft.defects = [] ∧ ∃ privacy, d = { draft.definition with privacy } := by
  rw [definition?] at h
  split at h
  · rename_i privacy hdefects hprivacy
    exact ⟨hdefects, privacy, (Except.ok.inj h).symm⟩
  · cases h

end Draft

/-! ## The definition -/

namespace Definition

/-- A document that is accepted is a good draft without defects. -/
theorem exists_of_ofDatum {doc : Datum} {d : Definition} (h : ofDatum doc = .ok d) :
    ∃ draft, Draft.shape doc = .good draft ∧ draft.definition? = .ok d := by
  rw [ofDatum] at h
  split at h
  · rename_i draft hshape
    split at h
    · exact ⟨draft, hshape, h⟩
    · cases h
  · cases h
  · cases h

/-- **A definition that is accepted can be run.** -/
theorem runnable_of_ofDatum {doc : Datum} {d : Definition} (h : ofDatum doc = .ok d) : d.Runnable := by
  obtain ⟨draft, hshape, hdefinition⟩ := exists_of_ofDatum h
  have hinked := Draft.inked_of_shape hshape
  obtain ⟨hnone, privacy, rfl⟩ := Draft.definition?_eq_ok hdefinition
  obtain ⟨hid, hname, -, hlinks, hsearch⟩ := Draft.defects_eq_nil_iff.mp hnone
  obtain ⟨hpaths, htemplates, hselector, hafter, hfields⟩ := Draft.searchDefects_eq_nil_iff.mp hsearch
  have hlisted : ∀ link, link ∈ ({ draft.definition with privacy } : Definition).allLinks ↔
      link ∈ draft.definition.links ∨ link ∈ draft.definition.legacyLinks := by
    intro link
    rw [allLinks, List.mem_eraseDups, List.mem_append]
  constructor
  case id => rwa [hinked.id]
  case name => rwa [hinked.name]
  case links =>
    obtain ⟨link, hlink⟩ := List.exists_mem_of_ne_nil _ hlinks
    exact List.ne_nil_of_mem ((hlisted link).mpr (.inl hlink))
  case distinct => exact nodup_eraseDups _
  case inked =>
    intro link hlink
    rcases (hlisted link).mp hlink with hlink | hlink
    · exact hinked.links link hlink
    · exact hinked.legacyLinks link hlink
  case paths => exact hpaths
  case requests =>
    intro path hpath
    refine ⟨htemplates path hpath, ?_⟩
    cases path.method
    · exact .inl rfl
    · exact .inr rfl
  case selector => exact hselector
  case after => exact hafter
  case fields => exact hfields

/-- Where there are paths, the one that is chosen is one of them. -/
theorem choosePath_mem {d : Definition} (h : d.search.paths ≠ []) (siteCategories : List String) :
    d.choosePath siteCategories ∈ d.search.paths := by
  rw [choosePath]
  cases hfitting : d.search.paths.find? fun p => p.categories.any siteCategories.contains with
  | some path => exact List.mem_of_find?_eq_some hfitting
  | none =>
      obtain ⟨path, rest, hpaths⟩ := List.exists_cons_of_ne_nil h
      rw [hpaths]
      exact List.mem_cons_self

end Definition

end MetaSearch
