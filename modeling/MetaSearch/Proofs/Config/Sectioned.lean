import MetaSearch.Config.Layer
import MetaSearch.Proofs.Datum.Overlaid

/-!
# What a layer has when it is written in sections

A layer that is written in sections has what the layer as it came has: a setting of a section under its flat name or else in
the section, if that is a map, and the other settings under their own names, endpoints as a list.

* `at?_sectioned_setting` is a setting of a section, and `at?_putFlat` the run over flat names that it rests on.
* `lookup?_sectioned` is what stands at the top of the layer.
* `IsSectioned.of_sectioned` and `proper_sectioned` are what is asked of a layer before it is laid over others.
-/

namespace MetaSearch.Config.Layer

open Datum

variable {layer out : Entries}

/-! ## Flat names -/

/-- The name that a setting of a section has outside of it. -/
def flatName? (section' name : String) : Option String :=
  (flatNames.find? fun flat => flat.2 == (section', name)).map (·.1)

/-- Where sections stand there are maps. -/
def IsSectioned (layer : Entries) : Prop :=
  ∀ name ∈ sections, ∀ d, lookup? (text name) layer = some d → ∃ entries, d = .map entries

/-- A setting that is put into its section is there, and the other settings are as they were. -/
theorem at?_put (section' name s n : String) (value : Datum) (layer : Entries) :
    at? (.map (put section' name value layer)) [s, n] =
      if (section', name) = (s, n) then some value else at? (.map layer) [s, n] := by
  rw [at?_map, at?_map, put]
  by_cases hs : section' = s
  · subst hs
    rw [lookup?_insert_self, Option.bind_some, at?_map]
    by_cases hn : name = n
    · subst hn
      rw [lookup?_insert_self, if_pos rfl]
      exact at?_nil value
    · rw [lookup?_insert_of_ne (Ne.symm hn), if_neg (by simpa using hn)]
      cases lookup? (text section') layer with
      | none => rfl
      | some d => cases d <;> exact (at?_map _ _ _).symm
  · rw [lookup?_insert_of_ne (Ne.symm hs), if_neg (by simp [hs])]

/-- What stands at the top under another name is as it was. -/
theorem lookup?_put_of_ne {section' t : String} (h : t ≠ section') (name : String) (value : Datum) (layer : Entries) :
    lookup? (text t) (put section' name value layer) = lookup? (text t) layer :=
  lookup?_insert_of_ne h _ layer

theorem IsSectioned.put (h : IsSectioned layer) (section' name : String) (value : Datum) :
    IsSectioned (put section' name value layer) := by
  intro t ht d hd
  by_cases hs : t = section'
  · subst hs
    rw [Layer.put, lookup?_insert_self] at hd
    exact ⟨_, (Option.some.inj hd).symm⟩
  · rw [lookup?_put_of_ne hs] at hd
    exact h t ht d hd

theorem proper_put (h : Proper (.map layer)) (section' name : String) {value : Datum} (hvalue : Proper value) :
    Proper (.map (put section' name value layer)) := by
  refine h.insert _ (Proper.insert ?_ _ hvalue)
  cases hd : lookup? (text section') layer with
  | none => exact Proper.nil
  | some d =>
      cases d with
      | map entries => exact h.of_lookup? hd
      | _ => exact Proper.nil

/-- One step of the run over flat names: a setting that the layer has under its flat name is put into its section. -/
def putOne (layer sectioned : Entries) (flat : String × String × String) : Entries :=
  match lookup? (text flat.1) layer with
  | some value => put flat.2.1 flat.2.2 value sectioned
  | none => sectioned

theorem putFlat_eq (layer base : Entries) : putFlat layer base = flatNames.foldl (putOne layer) base := rfl

/-- What is kept by putting a setting that a layer has into its section is kept by putting in all. -/
theorem putFlat_induction {motive : Entries → Prop} {base : Entries} (hbase : motive base)
    (hstep : ∀ flat ∈ flatNames, ∀ value, lookup? (text flat.1) layer = some value → ∀ entries, motive entries →
      motive (put flat.2.1 flat.2.2 value entries)) : motive (putFlat layer base) := by
  rw [putFlat_eq]
  refine List.foldlRecOn flatNames _ hbase fun entries hentries flat hflat => ?_
  rw [putOne]
  split
  · exact hstep flat hflat _ ‹_› entries hentries
  · exact hentries

/-- One step, seen from a setting of a section. -/
theorem at?_putOne (base : Entries) (flat : String × String × String) (s n : String) :
    at? (.map (putOne layer base flat)) [s, n] =
      (if flat.2 = (s, n) then lookup? (text flat.1) layer else none).or (at? (.map base) [s, n]) := by
  rw [putOne]
  cases lookup? (text flat.1) layer with
  | none => rw [ite_self, Option.none_or]
  | some value =>
      rw [at?_put]
      split <;> rfl

/-- **The run over flat names.**  A setting of a section is what the layer has under its flat name, or else what it was. -/
theorem at?_putFlat (base : Entries) (s n : String) :
    at? (.map (putFlat layer base)) [s, n] =
      ((flatName? s n).bind fun flat => lookup? (text flat) layer).or (at? (.map base) [s, n]) := by
  have hrun : ∀ (flats : List (String × String × String)) (base : Entries), (flats.map (·.2)).Nodup →
      at? (.map (flats.foldl (putOne layer) base)) [s, n] =
        (((flats.find? fun flat => flat.2 == (s, n)).map (·.1)).bind fun flat => lookup? (text flat) layer).or
          (at? (.map base) [s, n]) := by
    intro flats
    induction flats with
    | nil => exact fun base _ => rfl
    | cons flat rest ih =>
        intro base hnodup
        obtain ⟨hfirst, hrest⟩ := List.nodup_cons.mp hnodup
        rw [List.foldl_cons, ih _ hrest, at?_putOne]
        by_cases hplace : flat.2 = (s, n)
        · -- no flat name behind this one is that of the same setting
          have hnone : rest.find? (fun flat => flat.2 == (s, n)) = none := by
            rw [List.find?_eq_none]
            intro other hother hsame
            rw [beq_iff_eq] at hsame
            exact hfirst (List.mem_map.mpr ⟨other, hother, hsame.trans hplace.symm⟩)
          rw [hnone, List.find?_cons_of_pos (by simpa using hplace), if_pos hplace]
          rfl
        · rw [List.find?_cons_of_neg (by simpa using hplace), if_neg hplace, Option.none_or]
  exact hrun flatNames base (by decide)

theorem mem_flatNames_of_flatName? {s n flat : String} (h : flatName? s n = some flat) : (flat, s, n) ∈ flatNames := by
  obtain ⟨entry, hfind, rfl⟩ := Option.map_eq_some_iff.mp h
  have hplace : entry.2 = (s, n) := by simpa using List.find?_some hfind
  exact hplace ▸ List.mem_of_find?_eq_some hfind

/-- Flat names are those of settings of these sections. -/
theorem section_of_mem_flatNames : ∀ flat ∈ flatNames, flat.2.1 ∈ sections.take 5 := by decide

/-! ## The top of a layer -/

/-- The names that stand at the top of a layer in sections. -/
def topNames : List String :=
  sections ++ (["app_name", "environment"] ++ ["torznab_endpoints"])

/-- The endpoints of a layer as a list, if it has any. -/
def listed? (layer : Entries) : Except Fault (Option Datum) :=
  match lookup? (text "torznab_endpoints") layer with
  | some d => (endpoints d).map some
  | none => .ok none

/-- Endpoints are listed as a list. -/
theorem exists_list_of_endpoints {d e : Datum} (h : endpoints d = .ok e) : ∃ ds, e = .list ds := by
  rw [endpoints] at h
  split at h
  · cases hitems : Layer.listed d with
    | error f => simp [hitems, Except.map] at h
    | ok items =>
        rw [hitems] at h
        exact ⟨items, (Except.ok.inj h).symm⟩
  · exact ⟨[], (Except.ok.inj h).symm⟩

/-- A list of endpoints is listed already. -/
theorem endpoints_list (ds : List Datum) : endpoints (.list ds) = .ok (.list ds) := by
  cases ds <;> rfl

/-- What a layer has for the top of a layer in sections: maps for sections, and its endpoints listed. -/
def atTop? (layer : Entries) (listed : Option Datum) (name : String) : Option Datum :=
  if name ∈ sections then (lookup? (text name) layer).filter (·.entries?.isSome)
  else if name = "torznab_endpoints" then listed
  else lookup? (text name) layer

theorem mem_topNames_of_mem_sections {s : String} (hs : s ∈ sections) : s ∈ topNames :=
  List.mem_append_left _ hs

/-- What stands at the top before flat names are looked at. -/
def topFields (layer : Entries) (listed : Option Datum) : List (String × Datum) :=
  topNames.filterMap fun name => (atTop? layer listed name).map (name, ·)

/-- What stands at the top before flat names are looked at, entry by entry. -/
theorem map_topFields (layer : Entries) (listed : Option Datum) :
    (topFields layer listed).map (fun (name, d) => (text name, d)) =
      pickSections layer ++ (["app_name", "environment"].filterMap fun name =>
        (lookup? (text name) layer).map fun d => (text name, d)) ++
        (listed.map fun d => (text "torznab_endpoints", d)).toList := by
  have hsections : (sections.filterMap fun name => (atTop? layer listed name).map (name, ·)).map
      (fun (name, d) => (text name, d)) = pickSections layer := by
    rw [List.map_filterMap, pickSections]
    refine List.filterMap_congr fun name hname => ?_
    rw [atTop?, if_pos hname]
    cases lookup? (text name) layer with
    | none => rfl
    | some d => cases d <;> rfl
  have hgeneral : (["app_name", "environment"].filterMap fun name => (atTop? layer listed name).map (name, ·)).map
      (fun (name, d) => (text name, d)) =
        ["app_name", "environment"].filterMap fun name => (lookup? (text name) layer).map fun d => (text name, d) := by
    rw [List.map_filterMap]
    refine List.filterMap_congr fun name hname => ?_
    have hother : name ∉ sections ∧ name ≠ "torznab_endpoints" := by
      revert name
      decide
    rw [atTop?, if_neg hother.1, if_neg hother.2, Option.map_map]
    rfl
  have hlisted : (["torznab_endpoints"].filterMap fun name => (atTop? layer listed name).map (name, ·)).map
      (fun (name, d) => (text name, d)) = (listed.map fun d => (text "torznab_endpoints", d)).toList := by
    have hown : atTop? layer listed "torznab_endpoints" = listed := rfl
    cases listed <;> simp [hown]
  rw [topFields, topNames, List.filterMap_append, List.filterMap_append, List.map_append, List.map_append,
    hsections, hgeneral, hlisted, List.append_assoc]

/-- What a layer in sections is made of. -/
theorem sectioned_eq_ok_iff :
    sectioned layer = .ok out ↔ ∃ listed, listed? layer = .ok listed ∧
      out = putFlat layer ((topFields layer listed).map fun (name, d) => (text name, d)) := by
  simp only [map_topFields]
  rw [sectioned, listed?]
  cases lookup? (text "torznab_endpoints") layer with
  | none => simp [bind, Except.bind, pure, Except.pure, @eq_comm _ out]
  | some d =>
      cases hd : endpoints d with
      | error f => simp [hd, bind, Except.bind, Except.map]
      | ok d' => simp [hd, bind, Except.bind, pure, Except.pure, Except.map, @eq_comm _ out]

/-- What stands under a name at the top before flat names are looked at. -/
theorem lookup?_topFields (layer : Entries) (listed : Option Datum) (t : String) :
    lookup? (text t) ((topFields layer listed).map fun (name, d) => (text name, d)) =
      if t ∈ topNames then atTop? layer listed t else none := by
  rw [lookup?_fields, topFields, lookup_filterMap]

/-! ## What stands in a layer in sections -/

/-- **What stands at the top.**  Flat names reach into the first five sections only. -/
theorem lookup?_sectioned (h : sectioned layer = .ok out) {t : String} (ht : t ∉ sections.take 5) :
    ∃ listed, listed? layer = .ok listed ∧
      lookup? (text t) out = if t ∈ topNames then atTop? layer listed t else none := by
  obtain ⟨listed, hlisted, rfl⟩ := sectioned_eq_ok_iff.mp h
  refine ⟨listed, hlisted, ?_⟩
  rw [← lookup?_topFields]
  generalize (topFields layer listed).map (fun (name, d) => (text name, d)) = base
  refine putFlat_induction (motive := fun entries => lookup? (text t) entries = lookup? (text t) base) rfl
    fun flat hflat value _ entries hentries => ?_
  rw [lookup?_put_of_ne, hentries]
  rintro rfl
  exact ht (section_of_mem_flatNames flat hflat)

/-- A section without flat names is what it was, if it was a map. -/
theorem lookup?_sectioned_section (h : sectioned layer = .ok out) {s : String} (hs : s ∈ sections.drop 5) :
    lookup? (text s) out = (lookup? (text s) layer).filter (·.entries?.isSome) := by
  have hplain : s ∉ sections.take 5 ∧ s ∈ topNames ∧ s ∈ sections := by
    revert s
    decide
  obtain ⟨listed, -, heq⟩ := lookup?_sectioned h hplain.1
  rw [heq, if_pos hplain.2.1, atTop?, if_pos hplain.2.2]

/-- A general setting is what it was. -/
theorem lookup?_sectioned_general (h : sectioned layer = .ok out) {t : String} (ht : t ∈ ["app_name", "environment"]) :
    lookup? (text t) out = lookup? (text t) layer := by
  have hplain : t ∉ sections.take 5 ∧ t ∈ topNames ∧ t ∉ sections ∧ t ≠ "torznab_endpoints" := by
    revert t
    decide
  obtain ⟨listed, -, heq⟩ := lookup?_sectioned h hplain.1
  rw [heq, if_pos hplain.2.1, atTop?, if_neg hplain.2.2.1, if_neg hplain.2.2.2]

/-- The endpoints are listed. -/
theorem listed?_of_sectioned (h : sectioned layer = .ok out) :
    listed? layer = .ok (lookup? (text "torznab_endpoints") out) := by
  have hplain : "torznab_endpoints" ∉ sections.take 5 := by decide
  obtain ⟨listed, hlisted, heq⟩ := lookup?_sectioned h hplain
  rw [hlisted, heq]
  rfl

/-- Nothing else stands at the top. -/
theorem lookup?_sectioned_other (h : sectioned layer = .ok out) {t : String} (ht : t ∉ topNames) :
    lookup? (text t) out = none := by
  have hplain : t ∉ sections.take 5 := fun hmem => ht (List.mem_append_left _ (List.mem_of_mem_take hmem))
  obtain ⟨listed, -, heq⟩ := lookup?_sectioned h hplain
  rw [heq, if_neg ht]

/-- **A setting of a section.**  It is what the layer has under its flat name, or else in the section. -/
theorem at?_sectioned_setting (h : sectioned layer = .ok out) {s : String} (hs : s ∈ sections) (n : String) :
    at? (.map out) [s, n] =
      ((flatName? s n).bind fun flat => lookup? (text flat) layer).or (at? (.map layer) [s, n]) := by
  obtain ⟨listed, -, rfl⟩ := sectioned_eq_ok_iff.mp h
  rw [at?_putFlat, at?_map, lookup?_topFields, if_pos (mem_topNames_of_mem_sections hs), atTop?, if_pos hs, at?_map]
  cases lookup? (text s) layer with
  | none => rfl
  | some d => cases d <;> rfl

theorem IsSectioned.of_sectioned (h : sectioned layer = .ok out) : IsSectioned out := by
  obtain ⟨listed, -, rfl⟩ := sectioned_eq_ok_iff.mp h
  refine putFlat_induction (motive := IsSectioned) (fun name hname d hd => ?_)
    fun flat _ value _ entries hentries => hentries.put _ _ value
  rw [lookup?_topFields, if_pos (mem_topNames_of_mem_sections hname), atTop?, if_pos hname, Option.filter_eq_some_iff] at hd
  cases d <;> simp [entries?] at hd ⊢

/-- Where what a layer has is proper, so is what it has when it is written in sections. -/
theorem proper_sectioned (hlayer : Proper (.map layer)) (h : sectioned layer = .ok out) : Proper (.map out) := by
  obtain ⟨listed, hlisted, rfl⟩ := sectioned_eq_ok_iff.mp h
  have hlist : ∀ d, listed = some d → Proper d := by
    rintro d rfl
    rw [listed?] at hlisted
    split at hlisted
    · rename_i raw _
      cases hraw : endpoints raw with
      | error f => simp [hraw, Except.map] at hlisted
      | ok d' =>
          obtain rfl : d' = d := by simpa [hraw, Except.map] using hlisted
          obtain ⟨ds, rfl⟩ := exists_list_of_endpoints hraw
          exact .plain rfl
    · cases hlisted
  refine putFlat_induction (motive := fun entries => Proper (.map entries)) ?_
    fun flat _ value hvalue entries hentries => proper_put hentries _ _ (hlayer.of_lookup? hvalue)
  refine Proper.fields ((map_fst_filterMap_sublist _ _).nodup (by decide)) fun field hfield => ?_
  obtain ⟨name, -, heq⟩ := List.mem_filterMap.mp hfield
  obtain ⟨d, hd, rfl⟩ := Option.map_eq_some_iff.mp heq
  rw [atTop?] at hd
  split at hd
  · exact hlayer.of_lookup? (Option.filter_eq_some_iff.mp hd).1
  · split at hd
    · exact hlist d hd
    · exact hlayer.of_lookup? hd

/-! ## Stacks of layers -/

/-- A place of a setting: a name in a section, or one at the top that is no section's. -/
def IsPlace (place : List String) : Prop :=
  (∃ s ∈ sections, ∃ n, place = [s, n]) ∨ ∃ t ∈ topNames.drop 7, place = [t]

theorem map_stacked (base : Entries) (layers : List Entries) :
    Datum.map (stacked base layers) = (layers.map Datum.map).foldl overlay (.map base) := by
  induction layers generalizing base with
  | nil => rfl
  | cons layer layers ih =>
      have hstep : overlay (.map base) (.map layer) = .map (overlayEntries base layer) := by rw [overlay]
      rw [List.map_cons, List.foldl_cons, hstep, ← ih]
      rfl

/-- Nothing hides a setting where maps stand for sections. -/
theorem IsSectioned.saying_ne_hidden (h : IsSectioned layer) {place : List String} (hplace : IsPlace place) :
    saying (.map layer) place ≠ .hidden := by
  rcases hplace with ⟨s, hs, n, rfl⟩ | ⟨t, -, rfl⟩
  · rw [saying_map]
    cases hd : lookup? (text s) layer with
    | none => exact Saying.noConfusion
    | some d =>
        obtain ⟨entries, rfl⟩ := h s hs d hd
        simp only [saying_map]
        cases lookup? (text n) entries <;> simp
  · rw [saying_map]
    cases lookup? (text t) layer <;> simp

/-- **A setting in a stack of layers.**  The topmost layer that has something for it decides. -/
theorem exists_at?_stacked {base : Entries} {layers : List Entries} (hbase : IsSectioned base)
    (hlayers : ∀ layer ∈ layers, IsSectioned layer ∧ Proper (.map layer)) {place : List String} (hplace : IsPlace place) :
    ∃ lower, at? (.map (stacked base layers)) place =
      ((layers.reverse ++ [base]).findSome? fun layer => at? (.map layer) place).map (overlay lower) := by
  have hproper : ∀ d ∈ layers.map Datum.map, Proper d :=
    List.forall_mem_map.mpr fun layer hlayer => (hlayers layer hlayer).2
  have hopen : ∀ d ∈ (layers.reverse ++ [base]).map Datum.map, saying d place ≠ .hidden := by
    intro d hd
    obtain ⟨layer, hlayer, rfl⟩ := List.mem_map.mp hd
    rcases List.mem_append.mp hlayer with hlayer | hlayer
    · exact (hlayers layer (List.mem_reverse.mp hlayer)).1.saying_ne_hidden hplace
    · exact List.mem_singleton.mp hlayer ▸ hbase.saying_ne_hidden hplace
  obtain ⟨lower, heq⟩ := exists_at?_foldl_overlay (.map base) hproper place
  refine ⟨lower, ?_⟩
  have hstack : (layers.map Datum.map).reverse ++ [.map base] = (layers.reverse ++ [base]).map Datum.map := by
    rw [List.map_append, List.map_reverse]
    rfl
  rw [map_stacked, heq, hstack, topmost?_eq_findSome? hopen, List.findSome?_map]
  rfl

/-- Maps stand for sections in a stack of layers. -/
theorem IsSectioned.stacked {base : Entries} {layers : List Entries} (hbase : IsSectioned base)
    (hlayers : ∀ layer ∈ layers, IsSectioned layer ∧ Proper (.map layer)) : IsSectioned (stacked base layers) := by
  induction layers generalizing base with
  | nil => exact hbase
  | cons layer layers ih =>
      obtain ⟨hlayer, hrest⟩ := List.forall_mem_cons.mp hlayers
      refine ih (fun name hname d hd => ?_) hrest
      rw [lookup?_overlayEntries hlayer.2.distinct] at hd
      cases hu : lookup? (text name) layer with
      | none =>
          rw [hu] at hd
          exact hbase name hname d hd
      | some u =>
          obtain ⟨more, rfl⟩ := hlayer.1 name hname u hu
          rw [hu] at hd
          cases hl : lookup? (text name) base with
          | none =>
              rw [hl] at hd
              exact ⟨more, (Option.some.inj hd).symm⟩
          | some l =>
              obtain ⟨entries, rfl⟩ := hbase name hname l hl
              rw [hl] at hd
              exact ⟨overlayEntries entries more, by rw [← Option.some.inj hd, overlay]⟩

theorem proper_stacked {base : Entries} {layers : List Entries} (hbase : Proper (.map base))
    (hlayers : ∀ layer ∈ layers, Proper (.map layer)) : Proper (.map (stacked base layers)) := by
  rw [map_stacked]
  exact hbase.foldl_overlay (List.forall_mem_map.mpr hlayers)

end MetaSearch.Config.Layer
