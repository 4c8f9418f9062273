import Mathlib.Logic.Relation
import MetaSearch.Proofs.Shape.Kept
import MetaSearch.Proofs.Site.Accepted
import MetaSearch.Proofs.Site.Breaking
import MetaSearch.Proofs.Text.Parts

/-!
# Definitions written out

Much of a definition may be written short.  `Form.Longhand.Document` is the relation between a document and one in which a
single thing is written out, wherever it stands: a text as the record that it stands for, a link or an argument as a list, the
path that stands alone as a list of paths, entries of a table of categories as mappings, a modifier of a key as a part of its
field.

* A shape allows what is written out in the data that it reads (`Form.allows_filter` and its neighbours), and
  `Form.capabilities_eq_good_of_table` is what a table of categories comes to.
* Searches and documents need a path to allow as much: one that stands alone counts where it is not empty only
  (`Form.search_of_longhand`, `Draft.shape_of_longhand`).
* `Definition.ofDatum_of_longhand` is the step, and `Definition.ofDatum_written_out` the run of any number of steps.
-/

namespace MetaSearch

open Datum Shaped

namespace Form.Longhand

/-! ## What may be written out -/

/-- An argument that stands without a list. -/
inductive Argument : Datum → Datum → Prop
  | intro {d : Datum} (hnull : d.isNull = false) (hlist : d.items? = none) : Argument d (.list [d])

/-- A filter that stands as its name, or with one argument. -/
inductive Filter : Datum → Datum → Prop
  | name (s : String) : Filter (.text s) (.object [("name", .text s)])
  | argument {d d' : Datum} (h : ChangedUnder "args" Argument d d') : Filter d d'

/-- A field or rows that stand as a selector, or have such a filter. -/
inductive Selection : Datum → Datum → Prop
  | selector (s : String) : Selection (.text s) (.object [("selector", .text s)])
  | filters {d d' : Datum} (h : ChangedUnder "filters" (ChangedItem Filter) d d') : Selection d d'

/-- A path that stands as a text. -/
inductive Path : Datum → Datum → Prop
  | path (s : String) : Path (.text s) (.object [("path", .text s)])

/-- A link that stands without a list. -/
inductive Link : Datum → Datum → Prop
  | single (s : String) : Link (.text s) (.list [.text s])

/-- A key with `optional` among the modifiers behind its bars, as the key without it and a field that is optional.  No other
field has either key. -/
inductive Modifier : Datum → Datum → Prop
  | optional {before after entries entries' : List (Datum × Datum)} {name m : String} {front back : List String}
      (hm : Text.strip m = "optional") (hparts : ∀ part ∈ name :: (front ++ m :: back), '|' ∉ part.toList)
      (hothers : ∀ entry ∈ before ++ after, Shape.text entry.1 ≠ .good ("|".intercalate (name :: (front ++ m :: back))) ∧
        Shape.text entry.1 ≠ .good ("|".intercalate (name :: (front ++ back))))
      (hoptional : lookup? (.text "optional") entries' = some (.bool true))
      (hrest : Alike ["optional"] entries entries') :
      Modifier
        (.map (before ++ (.text ("|".intercalate (name :: (front ++ m :: back))), .map entries) :: after))
        (.map (before ++ (.text ("|".intercalate (name :: (front ++ back))), .map entries') :: after))

/-- The mapping that an entry of a table of categories stands for. -/
def mapping (entry : Datum × Datum) : Datum :=
  .object [("id", entry.1), ("cat", .text entry.2.printed)]

/-- Entries at the front of a table of categories, as mappings behind those that are given.  A table of which nothing is left
may go. -/
inductive Categories : Datum → Datum → Prop
  | front {entries entries' front rest : List (Datum × Datum)} {given : List Datum}
      (htable : lookup? (.text "categories") entries = some (.map (front ++ rest)))
      (hids : ∀ entry ∈ front, (∃ s, entry.1 = .text s) ∨ ∃ i, entry.1 = .int i)
      (hgiven : itemsOf (givenMappings entries) = .ok given)
      (hmappings : lookup? (.text "categorymappings") entries' = some (.list (given ++ front.map mapping)))
      (htable' : lookup? (.text "categories") entries' = some (.map rest) ∨
        rest = [] ∧ lookup? (.text "categories") entries' = none)
      (hrest : Alike ["categories", "categorymappings"] entries entries') :
      Categories (.map entries) (.map entries')

/-- A search with one thing written out. -/
inductive Search : Datum → Datum → Prop
  | path {d d' : Datum} (h : ChangedUnder "paths" (ChangedItem Path) d d') : Search d d'
  /-- The path that stands alone, where there is no list of paths; it may stay there or go. -/
  | single {entries entries' : List (Datum × Datum)} {d form : Datum}
      (hpaths : lookup? (.text "paths") entries = none) (hpath : lookup? (.text "path") entries = some d)
      (hform : form = .object [("path", d)] ∨ form = d ∧ ∃ s, d = .text s)
      (hpaths' : lookup? (.text "paths") entries' = some (.list [form]))
      (hpath' : lookup? (.text "path") entries' = some d ∨ lookup? (.text "path") entries' = none)
      (hrest : Alike ["paths", "path"] entries entries') :
      Search (.map entries) (.map entries')
  | keywordFilter {d d' : Datum} (h : ChangedUnder "keywordsfilters" (ChangedItem Filter) d d') : Search d d'
  | bodyFilter {d d' : Datum} (h : ChangedUnder "preprocessingfilters" (ChangedItem Filter) d d') : Search d d'
  | rows {d d' : Datum} (h : ChangedUnder "rows" Selection d d') : Search d d'
  | field {d d' : Datum} (h : ChangedUnder "fields" (ChangedValue Selection) d d') : Search d d'
  | modifier {d d' : Datum} (h : ChangedUnder "fields" Modifier d d') : Search d d'

/-- A document with one thing written out. -/
inductive Document : Datum → Datum → Prop
  | link {d d' : Datum} (h : ChangedUnder "links" Link d d') : Document d d'
  | legacyLink {d d' : Datum} (h : ChangedUnder "legacylinks" Link d d') : Document d d'
  | categories {d d' : Datum} (h : ChangedUnder "caps" Categories d d') : Document d d'
  | search {d d' : Datum} (h : ChangedUnder "search" Search d d') : Document d d'

/-- The path that stands alone may be put into a list behind everything else. -/
theorem Search.single_insert {entries : List (Datum × Datum)} {d : Datum}
    (hpaths : lookup? (.text "paths") entries = none) (hpath : lookup? (.text "path") entries = some d) :
    Search (.map entries) (.map (insert (.text "paths") (.list [.object [("path", d)]]) entries)) := by
  have hrest := alike_insert "paths" (.list [.object [("path", d)]]) entries
  refine .single hpaths hpath (.inl rfl) (lookup?_insert_self _ _ _) (.inl ?_) fun other hother =>
    hrest other fun hmem => hother (List.mem_cons.mpr (.inl (List.mem_singleton.mp hmem)))
  rw [hrest "path" (by decide), hpath]

end Form.Longhand

namespace Form

open Shape Longhand

/-! ## What shapes allow -/

/-- A filter is the same call when it is written out. -/
theorem allows_filter : filter.Allows Longhand.Filter := by
  rintro _ _ (⟨s⟩ | ⟨⟨h⟩⟩)
  · exact .refl _
  · have harguments : Shape.Allows (fun d => .good (filter.arguments d)) Argument := by
      rintro d _ ⟨hnull, hlist⟩
      cases d with
      | null => cases hnull
      | list ds => cases hlist
      | _ => exact .refl _
    simp (disch := decide) only [filter, expanded, record, h.others.required]
    exact (Keeps.refl _).seq (harguments.field h [])

theorem keeps_filters {name : String} {entries entries' : List (Datum × Datum)}
    (h : ChangedEntry name (ChangedItem Longhand.Filter) entries entries') :
    (filters entries name).Keeps (filters entries' name) :=
  allows_filter.list.field h []

theorem allows_field : Form.field.Allows Selection := by
  rintro _ _ (⟨s⟩ | ⟨⟨h⟩⟩)
  · exact .refl _
  · simp (disch := decide) only [Form.field, expanded, record, optionalText, h.others.field]
    exact (Keeps.refl _).seq (keeps_filters h)

theorem allows_rows : rows.Allows Selection := by
  rintro _ _ (⟨s⟩ | ⟨⟨h⟩⟩)
  · exact .refl _
  · simp (disch := decide) only [rows, expanded, record, h.others.field]
    exact (Keeps.refl _).seq (keeps_filters h)

theorem allows_path : path.Allows Longhand.Path := by
  rintro _ _ ⟨s⟩
  exact .refl _

theorem allows_links : links.Allows Link := by
  rintro _ _ ⟨s⟩
  exact .refl _

/-! ## Categories -/

/-- A table of categories is merged entry by entry. -/
theorem inOrder_mappingOf_eq_good {table : List (Datum × Datum)} {more : List Datum} :
    Shaped.inOrder capabilities.mappingOf table = .good more ↔
      (∀ entry ∈ table, entry.1.isWritable = true ∧ entry.2.isWritable = true) ∧ more = table.map mergedMapping := by
  induction table generalizing more with
  | nil => exact ⟨fun h => ⟨nofun, (good.inj h).symm⟩, fun h => congrArg good h.2.symm⟩
  | cons entry table ih =>
      simp only [Shaped.inOrder, andThen_eq_good_iff, map_eq_good_iff, mappingOf_eq_iff, ih, List.forall_mem_cons,
        List.map_cons]
      constructor
      · rintro ⟨_, ⟨hfirst, rfl⟩, _, ⟨hrest, rfl⟩, rfl⟩
        exact ⟨⟨hfirst, hrest⟩, rfl⟩
      · rintro ⟨⟨hfirst, hrest⟩, rfl⟩
        exact ⟨_, ⟨hfirst, rfl⟩, _, ⟨hrest, rfl⟩, rfl⟩

/-- The search modes of capabilities. -/
def modesIn (entries : List (Datum × Datum)) : Shaped (List (String × List String)) :=
  Shape.field entries "modes" (formed capabilities.modes (Shape.table Shape.text (Shape.list Shape.text))) []

/-- What is read of capabilities once there is no table of categories to merge. -/
theorem record_capabilities_eq_good {entries : List (Datum × Datum)} {caps : Capabilities} :
    (fun mappings modes => Capabilities.mk mappings modes) <$>
        Shape.field entries "categorymappings" (Shape.list Form.mapping) [] <*> modesIn entries = .good caps ↔
      Shape.field entries "categorymappings" (Shape.list Form.mapping) [] = .good caps.mappings ∧
        modesIn entries = .good caps.modes := by
  rw [seq_eq_good_iff]
  simp only [fmap_eq_good_iff]
  constructor
  · rintro ⟨_, modes, ⟨mappings, hmappings, rfl⟩, hmodes, rfl⟩
    exact ⟨hmappings, hmodes⟩
  · rintro ⟨hmappings, hmodes⟩
    exact ⟨_, _, ⟨_, hmappings, rfl⟩, hmodes, rfl⟩

/-- **Capabilities with a table of categories.** -/
theorem capabilities_eq_good_of_table {entries table : List (Datum × Datum)} {given : List Datum} {caps : Capabilities}
    (htable : lookup? (.text "categories") entries = some (.map table))
    (hgiven : itemsOf (givenMappings entries) = .ok given) :
    capabilities (.map entries) = .good caps ↔
      (∀ entry ∈ table, entry.1.isWritable = true ∧ entry.2.isWritable = true) ∧
        Shape.list Form.mapping (.list (given ++ table.map mergedMapping)) = .good caps.mappings ∧
        modesIn entries = .good caps.modes := by
  have hmerged : ∀ out, capabilities.merged (.map entries) = .good out ↔
      (∀ entry ∈ table, entry.1.isWritable = true ∧ entry.2.isWritable = true) ∧
        out = .map (insert (.text "categorymappings") (.list (given ++ table.map mergedMapping)) entries) := by
    intro out
    rw [capabilities.merged]
    simp only [htable]
    rw [← givenMappings, hgiven, Shaped.ofExcept, Shaped.andThen, map_eq_good_iff]
    simp only [inOrder_mappingOf_eq_good]
    constructor
    · rintro ⟨_, ⟨hwritable, rfl⟩, rfl⟩
      exact ⟨hwritable, rfl⟩
    · rintro ⟨hwritable, rfl⟩
      exact ⟨_, ⟨hwritable, rfl⟩, rfl⟩
  have hmodes : ∀ d, modesIn (insert (.text "categorymappings") d entries) = modesIn entries := fun d =>
    (alike_insert "categorymappings" d entries).field (by decide) _ _
  rw [capabilities, formed, andThen_eq_good_iff]
  simp only [hmerged]
  constructor
  · rintro ⟨_, ⟨hwritable, rfl⟩, hread⟩
    obtain ⟨hlist, hmodesIn⟩ := record_capabilities_eq_good.mp hread
    rw [field_eq_good_iff, lookup?_insert_self, orDefault_some] at hlist
    exact ⟨hwritable, hlist, hmodes _ ▸ hmodesIn⟩
  · rintro ⟨hwritable, hlist, hmodesIn⟩
    refine ⟨_, ⟨hwritable, rfl⟩, record_capabilities_eq_good.mpr ⟨?_, (hmodes _).trans hmodesIn⟩⟩
    rwa [field_eq_good_iff, lookup?_insert_self, orDefault_some]

/-- **Capabilities without a table of categories.** -/
theorem capabilities_eq_good_of_none {entries : List (Datum × Datum)} {caps : Capabilities}
    (htable : lookup? (.text "categories") entries = none) :
    capabilities (.map entries) = .good caps ↔
      Shape.field entries "categorymappings" (Shape.list Form.mapping) [] = .good caps.mappings ∧
        modesIn entries = .good caps.modes := by
  rw [← record_capabilities_eq_good, capabilities, formed, capabilities.merged]
  simp only [htable]
  rfl

/-- An identifier that may be written is read as its text is. -/
theorem keeps_mapping {entry : Datum × Datum} (hwritable : entry.1.isWritable = true)
    (hid : (∃ s, entry.1 = .text s) ∨ ∃ i, entry.1 = .int i) :
    (Form.mapping (mergedMapping entry)).Keeps (Form.mapping (Longhand.mapping entry)) := by
  obtain ⟨id, cat⟩ := entry
  -- the identifier is all that changes
  have hchanged : ChangedEntry "id" (fun d d' => d = .text id.printed ∧ d' = id)
      [(.text "id", .text id.printed), (.text "cat", .text cat.printed)]
      [(.text "id", id), (.text "cat", .text cat.printed)] :=
    changedEntry_insert (lookup?_cons_self _ _ _) ⟨rfl, rfl⟩
  have hid : Shape.Allows (formed scalarTextOrNone Shape.text) fun d d' => d = .text id.printed ∧ d' = id := by
    rintro _ _ ⟨rfl, rfl⟩
    rcases hid with ⟨s, rfl⟩ | ⟨i, rfl⟩
    · exact .refl _
    · have hwritten : scalarTextOrNone (.int i) = .good (.text (Datum.int i).printed) := written_eq_iff.mpr ⟨hwritable, rfl⟩
      refine .of_eq ?_
      rw [formed, formed, hwritten]
      rfl
  change (Form.mapping (.map [(.text "id", .text id.printed), (.text "cat", .text cat.printed)])).Keeps
    (Form.mapping (.map [(.text "id", id), (.text "cat", .text cat.printed)]))
  simp (disch := decide) only [Form.mapping, record, hchanged.others.required, hchanged.others.field]
  exact (((hid.required hchanged).fmap _).seq (.refl _)).seq (.refl _)

/-- Entries of a table of categories may be written out from its front. -/
theorem allows_capabilities : capabilities.Allows Categories := by
  rintro _ _ ⟨htable, hids, hgiven, hmappings, htable', hrest⟩ caps hcaps
  rename_i entries entries' front rest given
  obtain ⟨hwritable, hlist, hmodes⟩ := (capabilities_eq_good_of_table htable hgiven).mp hcaps
  obtain ⟨hfront, hback⟩ := List.forall_mem_append.mp hwritable
  have hmodes' : modesIn entries' = .good caps.modes := by
    rw [← hmodes, modesIn, modesIn, hrest.field (by decide)]
  have hlist' : Shape.list Form.mapping (.list (given ++ front.map Longhand.mapping ++ rest.map mergedMapping)) =
      .good caps.mappings := by
    refine itemsFrom_keeps ?_ 0 _ hlist
    have hsame : ∀ ds : List Datum, List.Forall₂ (fun d d' => (Form.mapping d).Keeps (Form.mapping d')) ds ds := fun ds =>
      List.forall₂_same.mpr fun d _ => .refl _
    rw [List.map_append, List.append_assoc]
    refine List.rel_append (hsame given) (List.rel_append ?_ (hsame _))
    rw [List.forall₂_map_left_iff, List.forall₂_map_right_iff, List.forall₂_same]
    exact fun entry hentry => keeps_mapping (hfront entry hentry).1 (hids entry hentry)
  rcases htable' with htable' | ⟨rfl, htable'⟩
  · have hgiven' : itemsOf (givenMappings entries') = .ok (given ++ front.map Longhand.mapping) := by
      rw [givenMappings, hmappings]
      rfl
    exact (capabilities_eq_good_of_table htable' hgiven').mpr ⟨hback, hlist', hmodes'⟩
  · refine (capabilities_eq_good_of_none htable').mpr ⟨?_, hmodes'⟩
    rw [field_eq_good_iff, hmappings, orDefault_some]
    rwa [List.map_nil, List.append_nil] at hlist'

/-! ## Searches -/

/-- A modifier that makes a field optional may stand in the field instead. -/
theorem keyedField_optional {name m : String} {front back : List String} (hm : Text.strip m = "optional")
    (hparts : ∀ part ∈ name :: (front ++ m :: back), '|' ∉ part.toList) (rule : FieldRule) :
    keyedField ("|".intercalate (name :: (front ++ back))) { rule with optional := true } =
      keyedField ("|".intercalate (name :: (front ++ m :: back))) rule := by
  have hfewer : ∀ part ∈ name :: (front ++ back), '|' ∉ part.toList := by
    intro part hpart
    refine hparts part ?_
    simp only [List.mem_cons, List.mem_append] at hpart ⊢
    tauto
  have hbar : "|".toList = ['|'] := rfl
  rw [keyedField, keyedField, Text.split_intercalate hbar (List.cons_ne_nil _ _) hparts,
    Text.split_intercalate hbar (List.cons_ne_nil _ _) hfewer]
  simp [hm]

/-- A field that is read is read as optional where it says so. -/
theorem field_optional {entries entries' : List (Datum × Datum)} {rule : FieldRule}
    (hoptional : lookup? (.text "optional") entries' = some (.bool true)) (hrest : Alike ["optional"] entries entries')
    (h : Form.field (.map entries) = .good rule) : Form.field (.map entries') = .good { rule with optional := true } := by
  have htruth : Shape.field entries' "optional" Shape.truth false = .good true := by
    rw [field_eq_good_iff, hoptional, orDefault_some]
    rfl
  simp (disch := decide) only [Form.field, expanded, record, optionalText, filters, hrest.field, htruth] at h ⊢
  simp only [seq_eq_good_iff, fmap_eq_good_iff] at h
  obtain ⟨_, filters, ⟨_, optional, ⟨_, default, ⟨_, remove, ⟨_, attributeName, ⟨_, cases, ⟨_, text,
    ⟨selector, hselector, rfl⟩, htext, rfl⟩, hcases, rfl⟩, hattribute, rfl⟩, hremove, rfl⟩, hdefault, rfl⟩, -, rfl⟩,
    hfilters, rfl⟩ := h
  rw [hselector, htext, hcases, hattribute, hremove, hdefault, hfilters]
  rfl

/-- **Modifiers may be written into their fields.**  The rules that come of a table are the same. -/
theorem table_of_modifier {d d' : Datum} (h : Modifier d d') {fields : List (String × FieldRule)}
    (hread : Shape.table Shape.text Form.field d = .good fields) :
    ∃ fields', Shape.table Shape.text Form.field d' = .good fields' ∧
      fields'.map (fun field => keyedField field.1 field.2) = fields.map fun field => keyedField field.1 field.2 := by
  obtain @⟨before, after, entries, entries', name, m, front, back, hm, hparts, hothers, hoptional, hrest⟩ := h
  obtain ⟨_, hentries, rfl⟩ := map_eq_good_iff.mp hread
  obtain ⟨first, _, hfirst, hlast, rfl⟩ := entriesOf_append_eq_good_iff.mp hentries
  obtain ⟨key, rule, last, hkey, hrule, hafter, rfl⟩ := entriesOf_cons_eq_good_iff.mp hlast
  obtain rfl := good.inj hkey
  obtain ⟨front', back', hmerge⟩ := Fields.exists_merge_of_fresh first last
  have hfresh : ∀ key, (∀ entry ∈ before ++ after, Shape.text entry.1 ≠ .good key) →
      key ∉ first.map (·.1) ∧ key ∉ last.map (·.1) := by
    intro key hother
    constructor
    · intro hmem
      obtain ⟨entry, hentry, hsame⟩ := exists_key_of_mem_entriesOf hfirst hmem
      exact hother entry (List.mem_append_left after hentry) hsame
    · intro hmem
      obtain ⟨entry, hentry, hsame⟩ := exists_key_of_mem_entriesOf hafter hmem
      exact hother entry (List.mem_append_right before hentry) hsame
  obtain ⟨hold, hold'⟩ := hfresh _ fun entry hentry => (hothers entry hentry).1
  obtain ⟨hnew, hnew'⟩ := hfresh _ fun entry hentry => (hothers entry hentry).2
  refine ⟨_, map_eq_good_iff.mpr ⟨_, entriesOf_append_eq_good_iff.mpr ⟨first, _, hfirst,
    entriesOf_cons_eq_good_iff.mpr ⟨_, _, last, rfl, field_optional hoptional hrest hrule, hafter, rfl⟩, rfl⟩, rfl⟩, ?_⟩
  rw [hmerge _ _ hold hold', hmerge _ _ hnew hnew', List.map_append, List.map_append, List.map_cons, List.map_cons,
    keyedField_optional hm hparts]

/-- A path that stands alone is read as it would be read in a record or by itself. -/
theorem path_of_form {d form : Datum} (hform : form = .object [("path", d)] ∨ form = d ∧ ∃ s, d = .text s) {s : String}
    (h : Shape.text d = .good s) : path form = .good { path := s } := by
  have hobject : path (.object [("path", d)]) = .good { path := s } := by
    have hpath : Shape.required [(.text "path", d)] "path" Shape.text = .good s :=
      required_eq_good_iff.mpr ⟨d, lookup?_cons_self _ _ _, h⟩
    change path (.map [(.text "path", d)]) = _
    simp only [path, expanded, record, hpath]
    rfl
  rcases hform with rfl | ⟨rfl, s, rfl⟩
  · exact hobject
  · exact hobject

/-- What is read of something that may be null and is not. -/
theorem text_of_orNull {d : Datum} {s : String} (h : formed .good (Shape.orNull Shape.text) d = .good (some s)) :
    Shape.text d = .good s := by
  change Shape.orNull Shape.text d = _ at h
  unfold Shape.orNull at h
  split at h
  · cases h
  · obtain ⟨t, ht, heq⟩ := map_eq_good_iff.mp h
    rwa [← Option.some.inj heq]

/-- A path that stands alone and counts is not empty. -/
theorem single_of_ne_nil {single : Option String} (h : search.singlePath single ≠ []) :
    ∃ s, single = some s ∧ s.isEmpty = false := by
  cases single with
  | none => exact absurd rfl h
  | some s =>
      refine ⟨s, rfl, ?_⟩
      by_contra hempty
      exact h (by rw [search.singlePath, if_pos (by simpa using hempty)])

/-- What a search is read as, part by part. -/
theorem search_eq_good_iff {entries : List (Datum × Datum)} {rule : SearchRule} :
    search (.map entries) = .good rule ↔
      ∃ paths single fields,
        Shape.field entries "paths" (Shape.list path) [] = .good paths ∧
        Shape.field entries "path" (formed .good (Shape.orNull Shape.text)) none = .good single ∧
        Form.table entries "inputs" = .good rule.inputs ∧
        Form.table entries "headers" = .good rule.headers ∧
        filters entries "keywordsfilters" = .good rule.keywordFilters ∧
        filters entries "preprocessingfilters" = .good rule.bodyFilters ∧
        Shape.field entries "rows" rows ⟨"", 0, []⟩ = .good rule.rows ∧
        Shape.field entries "fields" (Shape.table Shape.text Form.field) [] = .good fields ∧
        rule.paths = (if paths.isEmpty then search.singlePath single else paths) ∧
        rule.fields = fields.map fun field => keyedField field.1 field.2 := by
  rw [search, record, optionalText]
  constructor
  · intro h
    simp only [seq_eq_good_iff, fmap_eq_good_iff] at h
    obtain ⟨_, fields, ⟨_, rows, ⟨_, bodyFilters, ⟨_, keywordFilters, ⟨_, headers, ⟨_, inputs, ⟨_, single, ⟨paths, hpaths,
      rfl⟩, hsingle, rfl⟩, hinputs, rfl⟩, hheaders, rfl⟩, hkeywords, rfl⟩, hbody, rfl⟩, hrows, rfl⟩, hfields, rfl⟩ := h
    exact ⟨paths, single, fields, hpaths, hsingle, hinputs, hheaders, hkeywords, hbody, hrows, hfields, rfl, rfl⟩
  · rintro ⟨paths, single, fields, hpaths, hsingle, hinputs, hheaders, hkeywords, hbody, hrows, hfields, hlisted, hruled⟩
    obtain ⟨listed, row, ruled, inputs, headers, keywordFilters, bodyFilters⟩ := rule
    dsimp only at hinputs hheaders hkeywords hbody hrows hlisted hruled
    rw [hpaths, hsingle, hinputs, hheaders, hkeywords, hbody, hrows, hfields, hlisted, hruled]
    rfl

/-- The path that stands alone may be written into a list. -/
theorem search_of_single {entries entries' : List (Datum × Datum)} {d form : Datum} {rule : SearchRule}
    (hnone : lookup? (.text "paths") entries = none) (hsome : lookup? (.text "path") entries = some d)
    (hform : form = .object [("path", d)] ∨ form = d ∧ ∃ s, d = .text s)
    (hlist : lookup? (.text "paths") entries' = some (.list [form]))
    (hpath : lookup? (.text "path") entries' = some d ∨ lookup? (.text "path") entries' = none)
    (hrest : Alike ["paths", "path"] entries entries') (hread : search (.map entries) = .good rule)
    (hpaths : rule.paths ≠ []) : search (.map entries') = .good rule := by
  obtain ⟨paths, single, fields, hnothing, hsingle, hinputs, hheaders, hkeywords, hbody, hrows, hfields, hlisted, hruled⟩ :=
    search_eq_good_iff.mp hread
  rw [field_eq_good_iff, hnone] at hnothing
  obtain rfl := good.inj hnothing
  rw [hlisted] at hpaths
  obtain ⟨s, rfl, hs⟩ := single_of_ne_nil hpaths
  rw [field_eq_good_iff, hsome, orDefault_some] at hsingle
  have hlist' : Shape.field entries' "paths" (Shape.list path) [] = .good [{ path := s }] := by
    rw [field_eq_good_iff, hlist, orDefault_some]
    exact itemsFrom_cons_eq_good_iff.mpr ⟨_, [], path_of_form hform (text_of_orNull hsingle), rfl, rfl⟩
  -- whatever stands alone now does not count
  obtain ⟨single, hsingle'⟩ : ∃ single,
      Shape.field entries' "path" (formed .good (Shape.orNull Shape.text)) none = .good single := by
    simp only [field_eq_good_iff]
    rcases hpath with hpath | hpath
    · exact ⟨some s, by rw [hpath, orDefault_some, hsingle]⟩
    · exact ⟨none, by rw [hpath]; rfl⟩
  have hsame : rule.paths = [{ path := s }] := by
    rw [hlisted, List.isEmpty_nil, if_pos rfl, search.singlePath, hs]
    rfl
  simp (disch := decide) only [Form.table, filters, ← hrest.field] at hinputs hheaders hkeywords hbody hrows hfields
  exact search_eq_good_iff.mpr
    ⟨_, single, fields, hlist', hsingle', hinputs, hheaders, hkeywords, hbody, hrows, hfields, hsame, hruled⟩

/-- A modifier may be written into its field. -/
theorem search_of_modifier {entries entries' : List (Datum × Datum)} {rule : SearchRule}
    (h : ChangedEntry "fields" Modifier entries entries') (hread : search (.map entries) = .good rule) :
    search (.map entries') = .good rule := by
  obtain ⟨paths, single, fields, hpaths, hsingle, hinputs, hheaders, hkeywords, hbody, hrows, hfields, hlisted, hruled⟩ :=
    search_eq_good_iff.mp hread
  obtain ⟨d, d', hd, hd', hmodifier⟩ := h.changed
  rw [field_eq_good_iff, hd, orDefault_some] at hfields
  obtain ⟨fields', hfields', hsame⟩ := table_of_modifier hmodifier hfields
  simp (disch := decide) only [Form.table, filters, ← h.others.field] at hpaths hsingle hinputs hheaders hkeywords hbody hrows
  refine search_eq_good_iff.mpr
    ⟨paths, single, fields', hpaths, hsingle, hinputs, hheaders, hkeywords, hbody, hrows, ?_, hlisted, hruled.trans hsame.symm⟩
  rw [field_eq_good_iff, hd', orDefault_some, hfields']

/-- **A search may be written out**, if it has a path. -/
theorem search_of_longhand {d d' : Datum} (h : Longhand.Search d d') {rule : SearchRule} (hread : search d = .good rule)
    (hpaths : rule.paths ≠ []) : search d' = .good rule := by
  cases h with
  | path h =>
      obtain ⟨h⟩ := h
      simp (disch := decide) only [search, record, optionalText, Form.table, filters, h.others.field] at hread ⊢
      exact ((((((((allows_path.list.field h []).fmap _).seq (.refl _)).seq (.refl _)).seq (.refl _)).seq (.refl _)).seq
        (.refl _)).seq (.refl _)).seq (.refl _) rule hread
  | keywordFilter h =>
      obtain ⟨h⟩ := h
      simp (disch := decide) only [search, record, optionalText, Form.table, filters, h.others.field] at hread ⊢
      exact ((((Keeps.refl _).seq (keeps_filters h)).seq (.refl _)).seq (.refl _)).seq (.refl _) rule hread
  | bodyFilter h =>
      obtain ⟨h⟩ := h
      simp (disch := decide) only [search, record, optionalText, Form.table, filters, h.others.field] at hread ⊢
      exact (((Keeps.refl _).seq (keeps_filters h)).seq (.refl _)).seq (.refl _) rule hread
  | rows h =>
      obtain ⟨h⟩ := h
      simp (disch := decide) only [search, record, optionalText, Form.table, filters, h.others.field] at hread ⊢
      exact ((Keeps.refl _).seq (allows_rows.field h _)).seq (.refl _) rule hread
  | field h =>
      obtain ⟨h⟩ := h
      simp (disch := decide) only [search, record, optionalText, Form.table, filters, h.others.field] at hread ⊢
      exact (Keeps.refl _).seq ((allows_field.table Shape.text).field h []) rule hread
  | single hnone hsome hform hlist hpath hrest => exact search_of_single hnone hsome hform hlist hpath hrest hread hpaths
  | modifier h =>
      obtain ⟨h⟩ := h
      exact search_of_modifier h hread

/-! ## Cases of fields -/

/-- The cases of a table of fields. -/
def casesIn (fields : Option Datum) : List Datum :=
  ((fields.bind Datum.entries?).getD []).flatMap fun (_, field) =>
    (((field.get? "case").bind Datum.entries?).getD []).map (·.2)

theorem caseValues_eq_casesIn (d : Datum) : caseValues d = casesIn ((d.get? "search").bind (·.get? "fields")) := rfl

/-- Alike maps have the same under a text that is none of the exceptions. -/
theorem get?_of_alike {names : List String} {entries entries' : List (Datum × Datum)} (h : Alike names entries entries')
    {name : String} (hname : name ∉ names) : (Datum.map entries').get? name = (Datum.map entries).get? name :=
  h name hname

theorem get?_case_of_selection {d d' : Datum} (h : Selection d d') : d'.get? "case" = d.get? "case" := by
  rcases h with ⟨s⟩ | ⟨⟨h⟩⟩
  · rfl
  · exact h.others "case" (by decide)

/-- Writing out a search changes no cases. -/
theorem casesIn_of_longhand {d d' : Datum} (h : Longhand.Search d d') :
    casesIn (d'.get? "fields") = casesIn (d.get? "fields") := by
  cases h with
  | field h =>
      obtain ⟨h⟩ := h
      obtain ⟨_, _, hd, hd', ⟨before, key, hchange, after⟩⟩ := h.changed
      rw [Datum.get?, Datum.get?, hd, hd']
      simp [casesIn, Datum.entries?, get?_case_of_selection hchange]
  | modifier h =>
      obtain ⟨h⟩ := h
      obtain ⟨_, _, hd, hd', hmodifier⟩ := h.changed
      obtain ⟨hm, hparts, hothers, hoptional, hrest⟩ := hmodifier
      rw [Datum.get?, Datum.get?, hd, hd']
      simp [casesIn, Datum.entries?, get?_of_alike hrest (show "case" ∉ ["optional"] by decide)]
  | path h | keywordFilter h | bodyFilter h | rows h =>
      obtain ⟨h⟩ := h
      exact congrArg casesIn (h.others "fields" (by decide))
  | single _ _ _ _ _ hrest => exact congrArg casesIn (hrest "fields" (by decide))

/-- Writing out a document changes no cases. -/
theorem caseValues_of_longhand {doc doc' : Datum} (h : Longhand.Document doc doc') : caseValues doc' = caseValues doc := by
  rw [caseValues_eq_casesIn, caseValues_eq_casesIn]
  cases h with
  | search h =>
      obtain ⟨h⟩ := h
      obtain ⟨d, d', hd, hd', hchange⟩ := h.changed
      rw [Datum.get?, Datum.get?, hd, hd']
      exact casesIn_of_longhand hchange
  | link h | legacyLink h | categories h =>
      obtain ⟨h⟩ := h
      rw [get?_of_alike h.others (by decide)]

end Form

/-! ## Documents -/

open Form Form.Longhand

/-- **A draft may be written out**, if its search has a path. -/
theorem Draft.shape_of_longhand {doc doc' : Datum} (h : Document doc doc') {draft : Draft}
    (hread : Draft.shape doc = .good draft) (hpaths : draft.definition.search.paths ≠ []) :
    Draft.shape doc' = .good draft := by
  cases h with
  | link h =>
      obtain ⟨h⟩ := h
      simp (disch := decide) only [shape, Shape.record, h.others.field] at hread ⊢
      exact (((((Keeps.refl _).seq (allows_links.field h [])).seq (.refl _)).seq (.refl _)).seq (.refl _)).seq (.refl _)
        draft hread
  | legacyLink h =>
      obtain ⟨h⟩ := h
      simp (disch := decide) only [shape, Shape.record, h.others.field] at hread ⊢
      exact ((((Keeps.refl _).seq (allows_links.field h [])).seq (.refl _)).seq (.refl _)).seq (.refl _) draft hread
  | categories h =>
      obtain ⟨h⟩ := h
      simp (disch := decide) only [shape, Shape.record, h.others.field] at hread ⊢
      exact ((Keeps.refl _).seq (allows_capabilities.field h {})).seq (.refl _) draft hread
  | search h =>
      obtain ⟨h⟩ := h
      simp (disch := decide) only [shape, Shape.record, h.others.field] at hread ⊢
      obtain ⟨d, d', hd, hd', hchange⟩ := h.changed
      obtain ⟨rest, search, hrest, hsearch, rfl⟩ := seq_eq_good_iff.mp hread
      have hrule : (rest search).definition.search = search := by
        obtain ⟨_, caps, ⟨_, settings, ⟨_, legacyLinks, ⟨_, links, ⟨_, priority, ⟨_, protocol, ⟨_, encoding, ⟨_, privacyName,
          ⟨_, language, ⟨_, description, ⟨_, name, ⟨id, -, rfl⟩, -, rfl⟩, -, rfl⟩, -, rfl⟩, -, rfl⟩, -, rfl⟩, -, rfl⟩, -, rfl⟩,
          -, rfl⟩, -, rfl⟩, -, rfl⟩, -, rfl⟩ := by
          simpa only [seq_eq_good_iff, fmap_eq_good_iff] using hrest
        rfl
      rw [hrule] at hpaths
      rw [Shape.field_eq_good_iff, hd, Shape.orDefault_some] at hsearch
      refine seq_eq_good_iff.mpr ⟨rest, search, hrest, ?_, rfl⟩
      rw [Shape.field_eq_good_iff, hd', Shape.orDefault_some]
      exact search_of_longhand hchange hsearch hpaths

namespace Definition

/-- **One thing may be written out** without a change in what a document is read as. -/
theorem ofDatum_of_longhand {doc doc' : Datum} (h : Document doc doc') {d : Definition} (hread : ofDatum doc = .ok d) :
    ofDatum doc' = .ok d := by
  obtain ⟨draft, hshape, hdefinition⟩ := exists_of_ofDatum hread
  obtain ⟨hnone, -⟩ := Draft.definition?_eq_ok hdefinition
  obtain ⟨-, -, -, -, hsearch⟩ := Draft.defects_eq_nil_iff.mp hnone
  have hshape' := Draft.shape_of_longhand h hshape (Draft.searchDefects_eq_nil_iff.mp hsearch).1
  rw [ofDatum, hshape] at hread
  rwa [ofDatum, hshape', caseValues_of_longhand h]

/-- **A document may be written out** thing by thing without a change in what it is read as. -/
theorem ofDatum_written_out {doc doc' : Datum} (h : Relation.ReflTransGen Document doc doc') {d : Definition}
    (hread : ofDatum doc = .ok d) : ofDatum doc' = .ok d := by
  induction h with
  | refl => exact hread
  | tail _ hstep ih => exact ofDatum_of_longhand hstep ih

/-! ### A site -/

/-- A document that is written short, with more or less of it given. -/
def shortSite (caps : List (String × Datum)) (rows : Datum) (fields : List (Datum × Datum)) : Datum :=
  .object [("id", .text "site"), ("name", .text "Site"), ("links", .text "https://site.test/"), ("caps", .object caps),
    ("search", .object [("path", .text "s"), ("rows", rows), ("fields", .map fields)])]

/-- A document in which all is written out but its rows. -/
def longSite : Datum :=
  .object [("id", .text "site"), ("name", .text "Site"), ("links", .list [.text "https://site.test/"]),
    ("caps", .object [("categorymappings", .list [.object [("id", .int 4), ("cat", .text "TV/Anime")]])]),
    ("search", .object [("path", .text "s"), ("rows", .text "tr"),
      ("fields", .map [(.text "title", .object [("selector", .text "td"), ("optional", .bool true)])]),
      ("paths", .list [.object [("path", .text "s")]])])]

/-- The link, the categories, the path and the field of a site are written out one after the other. -/
theorem ofDatum_written_out_site :
    ∃ d, Relation.ReflTransGen Document
        (shortSite [("categories", .map [(.int 4, .text "TV/Anime")])] (.text "tr") [(.text "title|optional", .text "td")])
        longSite ∧
      ofDatum (shortSite [("categories", .map [(.int 4, .text "TV/Anime")])] (.text "tr")
        [(.text "title|optional", .text "td")]) = .ok d ∧
      ofDatum longSite = .ok d := by
  have hcategories : Categories (.object [("categories", .map [(.int 4, .text "TV/Anime")])])
      (.object [("categorymappings", .list [.object [("id", .int 4), ("cat", .text "TV/Anime")]])]) := by
    refine @Categories.front _ _ [(.int 4, .text "TV/Anime")] [] [] rfl (by simp) rfl rfl (.inr ⟨rfl, rfl⟩) ?_
    intro other hother
    rw [List.mem_cons, List.mem_singleton, not_or] at hother
    exact (lookup?_cons_of_ne (fun h => hother.2 (text.inj h).symm) _ []).trans
      (lookup?_cons_of_ne (fun h => hother.1 (text.inj h).symm) _ []).symm
  have hmodifier : Modifier (.map [(.text "title|optional", .object [("selector", .text "td")])])
      (.map [(.text "title", .object [("selector", .text "td"), ("optional", .bool true)])]) :=
    @Modifier.optional [] [] _ _ "title" "optional" [] [] (by decide) (by decide) nofun rfl
      (alike_insert "optional" (.bool true) [(.text "selector", .text "td")])
  have hsteps : Relation.ReflTransGen Document
      (shortSite [("categories", .map [(.int 4, .text "TV/Anime")])] (.text "tr") [(.text "title|optional", .text "td")])
      longSite := by
    refine .head (.link ⟨changedEntry_insert rfl (.single _)⟩) ?_
    refine .head (.categories ⟨changedEntry_insert rfl hcategories⟩) ?_
    refine .head (.search ⟨changedEntry_insert rfl (.single_insert rfl rfl)⟩) ?_
    refine .head (.search ⟨changedEntry_insert rfl (.field ⟨changedEntry_insert rfl (.intro [] _ (.selector "td") [])⟩)⟩) ?_
    refine .head (.search ⟨changedEntry_insert rfl (.modifier ⟨changedEntry_insert rfl hmodifier⟩)⟩) ?_
    exact .refl
  have haccepted : (ofDatum (shortSite [("categories", .map [(.int 4, .text "TV/Anime")])] (.text "tr")
      [(.text "title|optional", .text "td")])).toOption.isSome = true := by decide +kernel
  cases hread : ofDatum (shortSite [("categories", .map [(.int 4, .text "TV/Anime")])] (.text "tr")
      [(.text "title|optional", .text "td")]) with
  | ok d => exact ⟨d, hsteps, rfl, ofDatum_written_out hsteps hread⟩
  | error rejection =>
      rw [hread] at haccepted
      cases haccepted

/-- **Not everything may be written out.**  Not an entry in the midst of a table of categories, a category that is no text, the
null of a filter without arguments, and a key that is there another time as bytes. -/
theorem longhand_differs :
    ((ofDatum (shortSite [("categories", .map [(.bool true, .text "Movies"), (.int 5, .text "TV")])] (.text "tr")
        [(.text "title", .text "td")])).toOption.map (·.mappings.map (·.id)) = some ["True", "5"] ∧
      (ofDatum (shortSite [("categorymappings", .list [.object [("id", .int 5), ("cat", .text "TV")]]),
          ("categories", .map [(.bool true, .text "Movies")])] (.text "tr")
        [(.text "title", .text "td")])).toOption.map (·.mappings.map (·.id)) = some ["5", "True"]) ∧
    ((ofDatum (shortSite [("categories", .map [(.int 1, .int 2000)])] (.text "tr")
        [(.text "title", .text "td")])).toOption.map (·.mappings.map (·.target)) = some ["2000"] ∧
      (ofDatum (shortSite [("categorymappings", .list [.object [("id", .int 1), ("cat", .int 2000)]])] (.text "tr")
        [(.text "title", .text "td")])).toOption.map (·.mappings.map (·.target)) = none) ∧
    ((ofDatum (shortSite [] (.object [("selector", .text "tr"),
          ("filters", .list [.object [("name", .text "trim"), ("args", .null)]])])
        [(.text "title", .text "td")])).toOption.map (·.search.rows.filters.map (·.args.length)) = some [0] ∧
      (ofDatum (shortSite [] (.object [("selector", .text "tr"),
          ("filters", .list [.object [("name", .text "trim"), ("args", .list [.null])]])])
        [(.text "title", .text "td")])).toOption.map (·.search.rows.filters.map (·.args.length)) = some [1]) ∧
    ((ofDatum (shortSite [] (.text "tr") [(.bytes "title|optional".toUTF8.toList, .text "td.a"),
          (.text "title|optional", .object [("selector", .text "td.b")])])).toOption.map (·.search.fields.map (·.name)) =
        some ["title"] ∧
      (ofDatum (shortSite [] (.text "tr") [(.bytes "title|optional".toUTF8.toList, .text "td.a"),
          (.text "title", .object [("selector", .text "td.b"), ("optional", .bool true)])])).toOption.map
          (·.search.fields.map (·.name)) = some ["title", "title"]) := by
  decide +kernel

end Definition

end MetaSearch
