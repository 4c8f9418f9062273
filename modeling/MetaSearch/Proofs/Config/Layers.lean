import MetaSearch.Config.Load
import MetaSearch.Proofs.Config.Sectioned
import MetaSearch.Proofs.Shape.Read

/-!
# What files and variables say

The settings of a file are a proper map, as all that is read from a text is.  The variables of an environment say something
about a place if one of a family sets it and may hold what it holds (`inVariables?`).

* `Yaml.proper_of_read`: what is read from a text has no key twice, at whatever depth.
* `lookup_family`: what a family of variables sets, name by name.
* `at?_variableLayer`: the layer that the variables make holds what the variables say.
* `exists_of_load`: the layers that a configuration was loaded from.
-/

namespace MetaSearch

open Datum

/-! ## Texts -/

namespace Yaml

/-- A time is no map. -/
theorem entries?_stamp {t : Plain.Stamp} {d : Datum} (h : t.datum = .ok d) : d.entries? = none := by
  rw [Plain.Stamp.datum] at h
  split at h
  · split at h
    · exact Except.ok.inj h ▸ rfl
    · cases h
  · split at h
    · exact Except.ok.inj h ▸ rfl
    · cases h

/-- What a scalar is read as is no map. -/
theorem entries?_scalarMeaning {name text : String} {d : Datum} (h : scalarMeaning name text = .ok d) :
    d.entries? = none := by
  unfold scalarMeaning at h
  have hspelled : ∀ {α : Type} (x : Except Fault α) (f : α → Datum), (∀ a, (f a).entries? = none) →
      (x.map f).mapError Unread.fault = .ok d → d.entries? = none := by
    intro α x f hf heq
    cases x with
    | error e => cases heq
    | ok a => exact Except.ok.inj heq ▸ hf a
  split at h
  · exact Except.ok.inj h ▸ rfl
  · exact Except.ok.inj h ▸ rfl
  · split at h
    · exact Except.ok.inj h ▸ rfl
    · cases h
  · exact hspelled _ _ (fun _ => rfl) h
  · exact hspelled _ _ (fun _ => rfl) h
  · split at h
    · cases h
    · rename_i t _
      cases hdatum : t.datum with
      | error e => simp [hdatum, Except.mapError] at h
      | ok d' =>
          rw [hdatum] at h
          obtain rfl : d' = d := Except.ok.inj h
          exact entries?_stamp hdatum
  · split at h
    · exact Except.ok.inj h ▸ rfl
    · cases h
  · cases h

/-- What a node that is no collection is read as is no map. -/
theorem Node.entries?_scalarValue {node : Node} {d : Datum} (h : node.scalarValue = .ok d) : d.entries? = none := by
  unfold Node.scalarValue at h
  split at h
  · cases h
  · exact entries?_scalarMeaning h
  · split at h
    · cases h
    · exact entries?_scalarMeaning h

/-- **What a node is read as is proper**, whatever the depth. -/
theorem Node.proper_value (depth : Nat) (node : Node) : Proper (node.value depth) := by
  induction depth generalizing node with
  | zero => exact .plain rfl
  | succ depth ih =>
      unfold Node.value
      split
      · exact .plain rfl
      · exact .plain rfl
      · exact .plain rfl
      · -- entry by entry, the map is proper
        refine List.foldlRecOn (motive := fun found => Proper (.map found)) _ _ Proper.nil ?_
        rintro found hfound ⟨k, v⟩ -
        exact hfound.insert _ (ih v)
      · rename_i node _ _ _ _ _ _
        cases hvalue : node.scalarValue with
        | error u => exact .plain rfl
        | ok d => exact .plain (Node.entries?_scalarValue hvalue)

/-- What a text stands for is proper. -/
theorem proper_of_read {text : String} {d : Datum} (h : read text = .ok d) : Proper d := by
  rw [read] at h
  cases htokens : tokens text with
  | error u => simp [htokens, bind, Except.bind] at h
  | ok found =>
      simp only [htokens, bind, Except.bind] at h
      split at h
      · cases h
      · exact Except.ok.inj h ▸ .plain rfl
      · rename_i node _
        cases hexpand : orMalformed (node.expand? []) with
        | error u => simp [hexpand] at h
        | ok whole =>
            simp only [hexpand] at h
            split at h
            · cases h
            · exact Except.ok.inj h ▸ Node.proper_value _ _

end Yaml

namespace Config

theorem settle_eq_ok_iff {α : Type} {x : Shaped α} {a : α} : settle x = .ok a ↔ x = .good a := by
  cases x <;> simp [settle]

theorem orRefuse_eq_ok_iff {α : Type} {x : Except Fault α} {a : α} : orRefuse x = .ok a ↔ x = .ok a := by
  cases x <;> simp [orRefuse]

/-- The settings of a file, as they come; none where no file is named. -/
def Source.settings : Source → Except Refusal Entries
  | .unnamed => .ok []
  | .missing => .error .missingFile
  | .bytes content =>
    match fileText? content with
    | none => .error .undecodable
    | some s => fileEntries s

/-- The layer of a file is made of its settings. -/
theorem fileLayer_eq (file : Source) :
    fileLayer file = file.settings >>= fun settings => orRefuse (Layer.sectioned settings) := by
  cases file with
  | unnamed => rfl
  | missing => rfl
  | bytes content =>
      rw [fileLayer, Source.settings]
      cases fileText? content <;> rfl

theorem Source.proper_settings {file : Source} {settings : Entries} (h : file.settings = .ok settings) :
    Proper (.map settings) := by
  cases file with
  | unnamed => exact Except.ok.inj h ▸ Proper.nil
  | missing => cases h
  | bytes content =>
      rw [Source.settings] at h
      split at h
      · cases h
      · rename_i text _
        rw [fileEntries] at h
        split at h
        case h_3 => exact Except.ok.inj h ▸ Proper.nil
        case h_4 hread => exact Except.ok.inj h ▸ Yaml.proper_of_read hread
        all_goals cases h

/-! ## Variables -/

/-- What the variable of a family says that sets a name of the family's table. -/
def said? (vars : Variables) (start : String) (table : List (String × VariableShape)) (name : String) : Option Datum :=
  (table.lookup name).bind fun shape => (valueOf? vars (start ++ name)).bind fun value => (shape (.text value)).good?

/-- What the variables of an environment say about a place in a layer. -/
def inVariables? (vars : Variables) : List String → Option Datum
  | ["cache", name] => said? vars "CACHE_" cacheVariables name
  | ["flaresolverr", name] =>
    (said? vars "FLARESOLVERR_" solverVariables name).or
      -- an address alone switches the solver on
      (if name = "enabled" ∧ (said? vars "FLARESOLVERR_" solverVariables "url").any Datum.isTruthy then
        some (.bool true) else none)
  | [section', name] =>
    (Layer.flatName? section' name).bind (said? vars "TRAWLARR_" (generalVariables (homeOf? vars)))
  | [name] => said? vars "TRAWLARR_" (generalVariables (homeOf? vars)) name
  | _ => none

variable {vars : Variables} {start : String} {table : List (String × VariableShape)} {settings : List (String × Datum)}

/-- What the first variable of a family adds in front of what the others set. -/
theorem family_cons_eq_good {name : String} {shape : VariableShape}
    (h : family vars start ((name, shape) :: table) = .good settings) :
    ∃ more, family vars start table = .good more ∧
      ((valueOf? vars (start ++ name) = none ∧ settings = more) ∨
        ∃ value d, valueOf? vars (start ++ name) = some value ∧ shape (.text value) = .good d ∧
          settings = (name, d) :: more) := by
  rw [family, Shaped.map_eq_good_iff] at h
  obtain ⟨⟨here, more⟩, hboth, rfl⟩ := h
  obtain ⟨hhere, hmore⟩ := Shaped.both_eq_good_iff.mp hboth
  refine ⟨more, hmore, ?_⟩
  cases hvalue : valueOf? vars (start ++ name) with
  | none =>
      rw [hvalue] at hhere
      obtain rfl : [] = here := Shaped.good.inj hhere
      exact .inl ⟨rfl, rfl⟩
  | some value =>
      rw [hvalue] at hhere
      obtain ⟨d, hd, rfl⟩ := Shaped.map_eq_good_iff.mp hhere
      exact .inr ⟨value, d, rfl, Shaped.under_eq_good_iff.mp hd, rfl⟩

/-- **What a family sets under a name is what its variable says.** -/
theorem lookup_family (h : family vars start table = .good settings) (name : String) :
    settings.lookup name = said? vars start table name := by
  induction table generalizing settings with
  | nil =>
      obtain rfl : settings = [] := by simpa [family] using h.symm
      rfl
  | cons entry table ih =>
      obtain ⟨first, shape⟩ := entry
      obtain ⟨more, hmore, hfirst⟩ := family_cons_eq_good h
      have hrest := ih hmore
      rw [said?] at hrest ⊢
      by_cases hname : name = first
      · subst hname
        rw [List.lookup_cons, beq_self_eq_true]
        rcases hfirst with ⟨hvalue, rfl⟩ | ⟨value, d, hvalue, hd, rfl⟩
        · simp [hrest, hvalue]
        · simp [hvalue, hd, Shaped.good?]
      · have hne : (name == first) = false := beq_eq_false_iff_ne.mpr hname
        rw [List.lookup_cons, hne, ← hrest]
        rcases hfirst with ⟨-, rfl⟩ | ⟨value, d, -, -, rfl⟩
        · rfl
        · rw [List.lookup_cons, hne]

/-- A family sets names of its table, each once at most. -/
theorem map_fst_family_sublist (h : family vars start table = .good settings) :
    (settings.map (·.1)).Sublist (table.map (·.1)) := by
  induction table generalizing settings with
  | nil =>
      obtain rfl : settings = [] := by simpa [family] using h.symm
      exact List.Sublist.refl []
  | cons entry table ih =>
      obtain ⟨more, hmore, ⟨-, rfl⟩ | ⟨value, d, -, -, rfl⟩⟩ := family_cons_eq_good h
      · exact (ih hmore).cons entry.1
      · exact (ih hmore).cons_cons entry.1

/-- What a variable may hold is no map. -/
def VariableShape.IsPlain (shape : VariableShape) : Prop :=
  ∀ d e, shape d = .good e → e.entries? = none

/-- What becomes of something read is plain if what it becomes is. -/
theorem isPlain_map {α : Type} (shape : Shape α) {f : α → Datum} (hf : ∀ a, (f a).entries? = none) :
    VariableShape.IsPlain fun d => (shape d).map f := by
  intro d e he
  obtain ⟨a, -, rfl⟩ := Shaped.map_eq_good_iff.mp he
  exact hf a

theorem isPlain_generalVariables {home : Option String} :
    ∀ entry ∈ generalVariables home, entry.2.IsPlain := by
  simp only [generalVariables, List.forall_mem_cons]
  refine ⟨?_, ?_, ?_, ?_, ?_, ?_, ?_, ?_, ?_, ?_, ?_, ?_, ?_, by simp⟩ <;> exact isPlain_map _ fun _ => rfl

theorem isPlain_cacheVariables : ∀ entry ∈ cacheVariables, entry.2.IsPlain := by
  simp only [cacheVariables, List.forall_mem_cons]
  refine ⟨?_, ?_, ?_, ?_, ?_, by simp⟩ <;> exact isPlain_map _ fun _ => rfl

theorem isPlain_solverVariables : ∀ entry ∈ solverVariables, entry.2.IsPlain := by
  simp only [solverVariables, List.forall_mem_cons]
  refine ⟨?_, ?_, ?_, by simp⟩ <;> exact isPlain_map _ fun _ => rfl

/-- What a family of plain variables says is no map. -/
theorem entries?_said? (htable : ∀ entry ∈ table, entry.2.IsPlain) {name : String} {d : Datum}
    (h : said? vars start table name = some d) : d.entries? = none := by
  obtain ⟨shape, hshape, h⟩ := Option.bind_eq_some_iff.mp h
  obtain ⟨value, -, h⟩ := Option.bind_eq_some_iff.mp h
  obtain ⟨before, after, heq, -⟩ := List.lookup_eq_some_iff.mp hshape
  have hmem : (name, shape) ∈ table := heq ▸ List.mem_append_right _ List.mem_cons_self
  exact htable (name, shape) hmem _ d (Shaped.good?_eq_some_iff.mp h)

/-- What a family of plain variables sets is a proper map. -/
theorem proper_family (h : family vars start table = .good settings) (hnames : (table.map (·.1)).Nodup)
    (htable : ∀ entry ∈ table, entry.2.IsPlain) : Proper (object settings) := by
  refine Proper.fields ((map_fst_family_sublist h).nodup hnames) ?_
  clear hnames
  induction table generalizing settings with
  | nil =>
      obtain rfl : settings = [] := by simpa [family] using h.symm
      exact fun field hfield => absurd hfield List.not_mem_nil
  | cons entry table ih =>
      obtain ⟨hfirst, hrest⟩ := List.forall_mem_cons.mp htable
      obtain ⟨more, hmore, ⟨-, rfl⟩ | ⟨value, d, -, hd, rfl⟩⟩ := family_cons_eq_good h
      · exact ih hmore hrest
      · exact List.forall_mem_cons.mpr ⟨.plain (hfirst _ _ hd), ih hmore hrest⟩

/-- What is set for the solver in addition where an address alone is set. -/
theorem lookup_switchedOn (settings : List (String × Datum)) (name : String) :
    (switchedOn settings).lookup name =
      (settings.lookup name).or
        (if name = "enabled" ∧ (settings.lookup "url").any Datum.isTruthy then some (.bool true) else none) := by
  have hurl : ((settings.lookup "url").map Datum.isTruthy).getD false = (settings.lookup "url").any Datum.isTruthy := by
    cases settings.lookup "url" <;> rfl
  rw [switchedOn, hurl]
  by_cases hname : name = "enabled"
  · subst hname
    cases hanswer : settings.lookup "enabled" with
    | some d => simp [hanswer]
    | none => cases hany : (settings.lookup "url").any Datum.isTruthy <;> simp [hanswer, List.lookup_append]
  · have hne : (name == "enabled") = false := beq_eq_false_iff_ne.mpr hname
    cases hcond : (settings.lookup "url").any Datum.isTruthy && (settings.lookup "enabled").isNone <;>
      simp [hname, List.lookup_append, List.lookup_cons, hne]

/-! ## The layer of variables -/

variable {out : Entries}

/-- A section of a layer holds what is set in it. -/
theorem at?_sectionEntries (name s n : String) (settings : List (String × Datum)) :
    at? (.map (sectionEntries name settings)) [s, n] = if s = name then settings.lookup n else none := by
  rw [sectionEntries]
  cases hempty : settings.isEmpty with
  | true =>
      obtain rfl : settings = [] := List.isEmpty_iff.mp hempty
      exact (ite_self none).symm
  | false =>
      rw [at?_map]
      by_cases hs : s = name
      · subst hs
        rw [if_neg Bool.false_ne_true, lookup?_cons_self, Option.bind_some, object, at?_map, lookup?_fields, if_pos rfl]
        cases settings.lookup n with
        | none => rfl
        | some d => exact at?_nil d
      · have hne : text name ≠ text s := fun heq => hs (text.inj heq).symm
        rw [if_neg Bool.false_ne_true, lookup?_cons_of_ne hne, if_neg hs]
        rfl

theorem lookup?_sectionEntries_of_ne {t name : String} (h : t ≠ name) (settings : List (String × Datum)) :
    lookup? (text t) (sectionEntries name settings) = none := by
  rw [lookup?_eq_none_iff, sectionEntries]
  split
  · simp
  · rintro entry hentry heq
    rw [List.mem_singleton.mp hentry] at heq
    exact h (text.inj heq).symm

theorem isSectioned_sectionEntries (name : String) (settings : List (String × Datum)) :
    Layer.IsSectioned (sectionEntries name settings) := by
  intro s _ d hd
  rw [sectionEntries] at hd
  split at hd
  · cases hd
  · rw [List.mem_singleton.mp (mem_of_lookup? hd) |> Prod.mk.inj |>.2]
    exact ⟨_, rfl⟩

theorem proper_sectionEntries (name : String) {settings : List (String × Datum)} (h : Proper (object settings)) :
    Proper (.map (sectionEntries name settings)) := by
  rw [sectionEntries]
  split
  · exact Proper.nil
  · exact .map (List.pairwise_singleton _ _) fun entry hentry => List.mem_singleton.mp hentry ▸ h

/-- A proper map stays proper when the solver is switched on in it. -/
theorem proper_switchedOn (h : Proper (object settings)) : Proper (object (switchedOn settings)) := by
  rw [switchedOn]
  split
  · rename_i hcond
    have hnew : ∀ field ∈ settings, (text field.1).sameKey (text "enabled") = false := by
      intro field hfield
      have hnone : settings.lookup "enabled" = none := by simpa using (Bool.and_eq_true_iff.mp hcond).2
      have hne := List.lookup_eq_none_iff.mp hnone field hfield
      rw [sameKey_text, beq_eq_false_iff_ne]
      exact (bne_iff_ne.mp hne).symm
    rw [object, List.map_append]
    refine .map (List.pairwise_append.mpr ⟨h.distinct, List.pairwise_singleton _ _, ?_⟩) ?_
    · intro entry hentry new hadded
      obtain ⟨field, hfield, rfl⟩ := List.mem_map.mp hentry
      exact List.mem_singleton.mp hadded ▸ hnew field hfield
    · intro entry hentry
      rcases List.mem_append.mp hentry with hentry | hentry
      · exact h.of_mem hentry
      · exact List.mem_singleton.mp hentry ▸ .plain rfl
  · exact h

/-- What the layer of variables is made of. -/
theorem variableLayer_eq_good (h : variableLayer vars = .good out) :
    ∃ general cache solver entries,
      family vars "TRAWLARR_" (generalVariables (homeOf? vars)) = .good general ∧
      family vars "CACHE_" cacheVariables = .good cache ∧
      family vars "FLARESOLVERR_" solverVariables = .good solver ∧
      Layer.sectioned (general.map fun (name, d) => (text name, d)) = .ok entries ∧
      out = Layer.stacked entries [sectionEntries "cache" cache, sectionEntries "flaresolverr" (switchedOn solver)] := by
  rw [variableLayer, Shaped.andThen_eq_good_iff] at h
  obtain ⟨general, hgeneral, h⟩ := h
  obtain ⟨cache, hcache, h⟩ := Shaped.andThen_eq_good_iff.mp h
  obtain ⟨solver, hsolver, h⟩ := Shaped.andThen_eq_good_iff.mp h
  split at h
  · cases h
  · exact ⟨general, cache, solver, _, hgeneral, hcache, hsolver, ‹_›, (Shaped.good.inj h).symm⟩

/-- A name that a table does not have is set by no variable of its family. -/
theorem said?_eq_none {name : String} (h : name ∉ table.map (·.1)) : said? vars start table name = none := by
  have hnone : table.lookup name = none := by
    rw [List.lookup_eq_none_iff]
    exact fun entry hentry => bne_iff_ne.mpr fun heq => h (heq ▸ List.mem_map_of_mem hentry)
  rw [said?, hnone]
  rfl

/-- The general variables set nothing of the sections that have variables of their own. -/
theorem said?_flatName_eq_none {s n : String} (hs : s ∈ ["cache", "flaresolverr"]) (home : Option String) :
    (Layer.flatName? s n).bind (said? vars start (generalVariables home)) = none := by
  have hnames : ∀ flat ∈ Layer.flatNames, flat.2.1 ∈ ["cache", "flaresolverr"] →
      flat.1 ∉ (generalVariables none).map (·.1) := by decide
  rw [Option.bind_eq_none_iff]
  exact fun flat hflat => said?_eq_none (hnames (flat, s, n) (Layer.mem_flatNames_of_flatName? hflat) hs)

/-- What variables say is no map. -/
theorem noMap_inVariables? (vars : Variables) (place : List String) : NoMap (inVariables? vars place) := by
  intro d hd
  unfold inVariables? at hd
  split at hd
  · exact entries?_said? isPlain_cacheVariables hd
  · rcases Option.or_eq_some_iff.mp hd with hd | ⟨-, hd⟩
    · exact entries?_said? isPlain_solverVariables hd
    · split at hd
      · exact Option.some.inj hd ▸ rfl
      · cases hd
  · obtain ⟨flat, -, hd⟩ := Option.bind_eq_some_iff.mp hd
    exact entries?_said? isPlain_generalVariables hd
  · exact entries?_said? isPlain_generalVariables hd
  · cases hd

/-- The names of a family of variables are there once each. -/
theorem nodup_variables (home : Option String) :
    ((generalVariables home).map (·.1)).Nodup ∧ (cacheVariables.map (·.1)).Nodup ∧ (solverVariables.map (·.1)).Nodup := by
  have hgeneral : ((generalVariables none).map (·.1)).Nodup := by decide
  exact ⟨hgeneral, by decide, by decide⟩

/-- The layers that the families make, the lowest first, are sectioned and proper. -/
theorem layers_of_variables {general cache solver : List (String × Datum)} {entries : Entries}
    (hgeneral : family vars "TRAWLARR_" (generalVariables (homeOf? vars)) = .good general)
    (hcache : family vars "CACHE_" cacheVariables = .good cache)
    (hsolver : family vars "FLARESOLVERR_" solverVariables = .good solver)
    (hentries : Layer.sectioned (general.map fun (name, d) => (text name, d)) = .ok entries) :
    (Layer.IsSectioned entries ∧ Proper (.map entries)) ∧
      ∀ layer ∈ [sectionEntries "cache" cache, sectionEntries "flaresolverr" (switchedOn solver)],
        Layer.IsSectioned layer ∧ Proper (.map layer) := by
  obtain ⟨hgeneralNames, hcacheNames, hsolverNames⟩ := nodup_variables (homeOf? vars)
  refine ⟨⟨.of_sectioned hentries, ?_⟩, ?_⟩
  · exact Layer.proper_sectioned (proper_family hgeneral hgeneralNames isPlain_generalVariables) hentries
  · simp only [List.forall_mem_cons]
    refine ⟨⟨isSectioned_sectionEntries _ _, proper_sectionEntries _ ?_⟩,
      ⟨isSectioned_sectionEntries _ _, proper_sectionEntries _ ?_⟩, by simp⟩
    · exact proper_family hcache hcacheNames isPlain_cacheVariables
    · exact proper_switchedOn (proper_family hsolver hsolverNames isPlain_solverVariables)

theorem isSectioned_variableLayer (h : variableLayer vars = .good out) :
    Layer.IsSectioned out ∧ Proper (.map out) := by
  obtain ⟨general, cache, solver, entries, hgeneral, hcache, hsolver, hentries, rfl⟩ := variableLayer_eq_good h
  obtain ⟨hbase, hlayers⟩ := layers_of_variables hgeneral hcache hsolver hentries
  exact ⟨hbase.1.stacked hlayers, Layer.proper_stacked hbase.2 fun layer hlayer => (hlayers layer hlayer).2⟩

/-- What the families say about a setting of a section, one after the other. -/
theorem families_section {general cache solver : List (String × Datum)} {entries : Entries}
    (hgeneral : family vars "TRAWLARR_" (generalVariables (homeOf? vars)) = .good general)
    (hcache : family vars "CACHE_" cacheVariables = .good cache)
    (hsolver : family vars "FLARESOLVERR_" solverVariables = .good solver)
    (hentries : Layer.sectioned (general.map fun (name, d) => (text name, d)) = .ok entries) {s : String}
    (hs : s ∈ Layer.sections) (n : String) :
    (at? (.map (sectionEntries "flaresolverr" (switchedOn solver))) [s, n]).or
      ((at? (.map (sectionEntries "cache" cache)) [s, n]).or (at? (.map entries) [s, n])) = inVariables? vars [s, n] := by
  have hsaid : (fun t => lookup? (text t) (general.map fun (name, d) => (text name, d))) =
      said? vars "TRAWLARR_" (generalVariables (homeOf? vars)) :=
    funext fun t => by rw [lookup?_fields, lookup_family hgeneral]
  have hinner : at? (.map (general.map fun (name, d) => (text name, d))) [s, n] = none := by
    rw [at?_map, congrFun hsaid s, Option.bind_eq_none_iff]
    exact fun d hd => at?_of_not_map (entries?_said? isPlain_generalVariables hd) n []
  rw [at?_sectionEntries, at?_sectionEntries, Layer.at?_sectioned_setting hentries hs, hinner, Option.or_none, hsaid,
    lookup_family hcache, lookup_switchedOn, lookup_family hsolver, lookup_family hsolver]
  by_cases hcacheName : s = "cache"
  · subst hcacheName
    rw [said?_flatName_eq_none (by decide), if_neg (by decide), if_pos rfl, Option.none_or, Option.or_none]
    rfl
  by_cases hsolverName : s = "flaresolverr"
  · subst hsolverName
    rw [said?_flatName_eq_none (by decide), if_pos rfl, if_neg hcacheName, Option.or_none, Option.or_none]
    rfl
  rw [if_neg hcacheName, if_neg hsolverName, Option.none_or, Option.none_or]
  unfold inVariables?
  split <;> simp_all

/-- What the families say about a setting at the top. -/
theorem families_top {general cache solver : List (String × Datum)} {entries : Entries}
    (hgeneral : family vars "TRAWLARR_" (generalVariables (homeOf? vars)) = .good general)
    (hentries : Layer.sectioned (general.map fun (name, d) => (text name, d)) = .ok entries) {t : String}
    (ht : t ∈ Layer.topNames.drop 7) :
    (at? (.map (sectionEntries "flaresolverr" (switchedOn solver))) [t]).or
      ((at? (.map (sectionEntries "cache" cache)) [t]).or (at? (.map entries) [t])) = inVariables? vars [t] := by
  have hsaid : ∀ t, lookup? (text t) (general.map fun (name, d) => (text name, d)) =
      said? vars "TRAWLARR_" (generalVariables (homeOf? vars)) t := fun t => by
    rw [lookup?_fields, lookup_family hgeneral]
  have hnames : ∀ t ∈ Layer.topNames.drop 7, (∀ name ∈ ["cache", "flaresolverr"], t ≠ name) ∧
      (t = "torznab_endpoints" ∨ t ∈ ["app_name", "environment"]) := by decide
  obtain ⟨hother, hkind⟩ := hnames t ht
  rw [at?_singleton, at?_singleton, at?_singleton, lookup?_sectionEntries_of_ne (hother _ (by simp)),
    lookup?_sectionEntries_of_ne (hother _ (by simp)), Option.none_or, Option.none_or]
  have hown : inVariables? vars [t] = said? vars "TRAWLARR_" (generalVariables (homeOf? vars)) t := by
    simp only [inVariables?]
  rw [hown]
  rcases hkind with rfl | hgeneralName
  · have hname : "torznab_endpoints" ∉ (generalVariables none).map (·.1) := by decide
    have hunset : said? vars "TRAWLARR_" (generalVariables (homeOf? vars)) "torznab_endpoints" = none :=
      said?_eq_none hname
    have hlisted := Layer.listed?_of_sectioned hentries
    rw [Layer.listed?, hsaid, hunset] at hlisted
    rw [hunset]
    exact (Except.ok.inj hlisted).symm
  · rw [Layer.lookup?_sectioned_general hentries hgeneralName, hsaid]

/-- **What the layer of variables holds is what the variables say.** -/
theorem at?_variableLayer (h : variableLayer vars = .good out) {place : List String} (hplace : Layer.IsPlace place) :
    at? (.map out) place = inVariables? vars place := by
  obtain ⟨general, cache, solver, entries, hgeneral, hcache, hsolver, hentries, rfl⟩ := variableLayer_eq_good h
  obtain ⟨hbase, hlayers⟩ := layers_of_variables hgeneral hcache hsolver hentries
  obtain ⟨lower, heq⟩ := Layer.exists_at?_stacked hbase.1 hlayers hplace
  have hthree : ∀ find : Entries → Option Datum,
      ([sectionEntries "cache" cache, sectionEntries "flaresolverr" (switchedOn solver)].reverse ++
        [entries]).findSome? find =
        (find (sectionEntries "flaresolverr" (switchedOn solver))).or
          ((find (sectionEntries "cache" cache)).or (find entries)) := by
    intro find
    simp only [List.reverse_cons, List.reverse_nil, List.nil_append, List.cons_append, List.findSome?_cons,
      List.findSome?_nil]
    cases find (sectionEntries "flaresolverr" (switchedOn solver)) <;> cases find (sectionEntries "cache" cache) <;>
      cases find entries <;> rfl
  have hall : (at? (.map (sectionEntries "flaresolverr" (switchedOn solver))) place).or
      ((at? (.map (sectionEntries "cache" cache)) place).or (at? (.map entries) place)) = inVariables? vars place := by
    rcases hplace with ⟨s, hs, n, rfl⟩ | ⟨t, ht, rfl⟩
    · exact families_section hgeneral hcache hsolver hentries hs n
    · exact families_top hgeneral hentries ht
  rw [heq, hthree, hall]
  exact (noMap_inVariables? vars place).map_overlay lower

/-- What stands at the top under another name than those of the two sections with variables of their own comes from the
general variables. -/
theorem lookup?_variableLayer (h : variableLayer vars = .good out) {t : String} (hcache : t ≠ "cache")
    (hsolver : t ≠ "flaresolverr") :
    ∃ general entries, family vars "TRAWLARR_" (generalVariables (homeOf? vars)) = .good general ∧
      Layer.sectioned (general.map fun (name, d) => (text name, d)) = .ok entries ∧
      lookup? (text t) out = lookup? (text t) entries := by
  obtain ⟨general, cache, solver, entries, hgeneral, hset, hsolverSet, hentries, rfl⟩ := variableLayer_eq_good h
  obtain ⟨-, hlayers⟩ := layers_of_variables hgeneral hset hsolverSet hentries
  refine ⟨general, entries, hgeneral, hentries, ?_⟩
  rw [Layer.stacked, List.foldl_cons, List.foldl_cons, List.foldl_nil,
    lookup?_overlayEntries (hlayers _ (by simp)).2.distinct, lookup?_overlayEntries (hlayers _ (by simp)).2.distinct,
    lookup?_sectionEntries_of_ne hsolver, lookup?_sectionEntries_of_ne hcache]

/-- Nothing but sections and general settings stands at the top. -/
theorem lookup?_variableLayer_other (h : variableLayer vars = .good out) {t : String} (ht : t ∉ Layer.topNames) :
    lookup? (text t) out = none := by
  have hne : ∀ name ∈ Layer.topNames, t ≠ name := fun name hname heq => ht (heq ▸ hname)
  obtain ⟨general, entries, -, hentries, heq⟩ := lookup?_variableLayer h (hne _ (by decide)) (hne _ (by decide))
  rw [heq, Layer.lookup?_sectioned_other hentries ht]

/-- Variables say nothing about single sites. -/
theorem lookup?_variableLayer_indexers (h : variableLayer vars = .good out) : lookup? (text "indexers") out = none := by
  have hcache : "indexers" ≠ "cache" := by decide
  have hsolver : "indexers" ≠ "flaresolverr" := by decide
  obtain ⟨general, entries, hgeneral, hentries, heq⟩ := lookup?_variableLayer h hcache hsolver
  have hname : "indexers" ∉ (generalVariables none).map (·.1) := by decide
  have hunset : said? vars "TRAWLARR_" (generalVariables (homeOf? vars)) "indexers" = none := said?_eq_none hname
  rw [heq, Layer.lookup?_sectioned_section hentries (by decide), lookup?_fields, lookup_family hgeneral, hunset]
  rfl

/-! ## Loading -/

/-- What a configuration is made of that is loaded. -/
theorem exists_of_load {file variableFile : Source} {vars : Variables} {commandLine : Entries} {c : Config}
    (h : load file variableFile vars commandLine = .ok c) :
    ∃ vars' settings file' variables' commandLine', withVariableFile vars variableFile = .ok vars' ∧
      file.settings = .ok settings ∧ Layer.sectioned settings = .ok file' ∧ variableLayer vars' = .good variables' ∧
      Layer.sectioned commandLine = .ok commandLine' ∧
      shape (homeOf? vars') (.map (Layer.stacked defaultLayer [file', variables', commandLine'])) = .good c := by
  rw [load] at h
  obtain ⟨vars', hvars, h⟩ := exists_of_bind_eq_ok h
  obtain ⟨file', hfile, h⟩ := exists_of_bind_eq_ok h
  obtain ⟨variables', hvariables, h⟩ := exists_of_bind_eq_ok h
  obtain ⟨commandLine', hcommandLine, h⟩ := exists_of_bind_eq_ok h
  rw [fileLayer_eq] at hfile
  obtain ⟨settings, hsettings, hfile⟩ := exists_of_bind_eq_ok hfile
  exact ⟨vars', settings, file', variables', commandLine', hvars, hsettings, orRefuse_eq_ok_iff.mp hfile,
    settle_eq_ok_iff.mp hvariables, orRefuse_eq_ok_iff.mp hcommandLine, settle_eq_ok_iff.mp h⟩

end Config

end MetaSearch
