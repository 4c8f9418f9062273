import MetaSearch.Datum.Overlay
import MetaSearch.Proofs.Shape.Read
import MetaSearch.Proofs.Shape.Unbroken
import MetaSearch.Proofs.Yaml.Misspelled
import MetaSearch.Site.Reader

/-!
# Documents that break the reading of definitions

A file that holds no definition is refused with reasons, but for three kinds of documents that break the reading off: those
with scalars that do not spell what they are read as, those with capabilities in which something that cannot be gone
through stands for a list (`BreaksCapabilities`), and those with a number too long to be written among their cases.

`Definition.ofFile_eq_fault_iff` says that there are no others.  Only capabilities are put into form with what they hold, so
all other shapes of a definition are unbroken (`Form.unbroken_search` and its neighbours), and what is left is to follow the
two places where capabilities gather items, through the reading of one entry after the other.
-/

namespace MetaSearch

namespace Datum

/-- Whether a datum counts as something and cannot be gone through. -/
def isSingle : Datum → Bool
  | .bool b => b
  | .int i => i != 0
  | .float x => !x.isZero
  | .date _ | .stamp _ => true
  | _ => false

end Datum

namespace Form

open Shape

/-! ## Shapes that are never broken -/

theorem fault?_written (d : Datum) : (written d).fault? = none := by
  unfold written
  split <;> rfl

/-- What may be written comes to its text, and nothing else comes to anything. -/
theorem written_eq_iff {d t : Datum} : written d = .good t ↔ d.isWritable = true ∧ t = .text d.printed := by
  rw [written]
  split
  · rename_i h
    simp [h, eq_comm]
  · rename_i h
    simp [h, Shaped.complain]

/-- What may be written comes to a text. -/
theorem written_eq_good_iff {d : Datum} : (∃ t, written d = .good t) ↔ d.isWritable = true := by
  simp [written_eq_iff]

theorem fault?_scalarText (d : Datum) : (scalarText d).fault? = none := by
  unfold scalarText
  split
  · rfl
  · exact fault?_written _
  · exact fault?_written _
  · rfl

theorem fault?_scalarTextOrNone (d : Datum) : (scalarTextOrNone d).fault? = none := by
  unfold scalarTextOrNone
  split
  · rfl
  · exact fault?_scalarText _

/-- A shape in a form that never breaks off is unbroken. -/
theorem unbroken_formed {α : Type} {form : Datum → Shaped Datum} {shape : Shape α}
    (hform : ∀ d, (form d).fault? = none) (hshape : Unbroken shape) : Unbroken (formed form shape) :=
  fun d => Shaped.fault?_andThen_eq_none (hform d) hshape

theorem unbroken_filter : Unbroken filter := by
  intro d
  refine unbroken_record (fun entries => ?_) _
  have harguments : Unbroken fun d => Shaped.good (filter.arguments d) := fun _ => rfl
  simp only [Shaped.fault?_seq, Shaped.fault?_fmap, unbroken_text.required, harguments.field, Option.or_none]

theorem fault?_filters (entries : List (Datum × Datum)) (name : String) : (filters entries name).fault? = none :=
  unbroken_filter.list.field entries name []

theorem fault?_optionalText (entries : List (Datum × Datum)) (name : String) {form : Datum → Shaped Datum}
    (h : ∀ d, (form d).fault? = none) : (optionalText entries name form).fault? = none :=
  (unbroken_formed h unbroken_text.orNull).field entries name none

theorem fault?_table (entries : List (Datum × Datum)) (name : String) : (Form.table entries name).fault? = none :=
  (unbroken_text.table unbroken_anything).field entries name []

theorem unbroken_field : Unbroken Form.field := by
  intro d
  refine unbroken_record (fun entries => ?_) _
  have hcases : Unbroken field.caseTable := by
    intro d
    rw [field.caseTable, Shaped.fault?_map]
    exact (unbroken_text.table unbroken_anything).orNull d
  have hgood : ∀ d : Datum, (Shaped.good d).fault? = none := fun _ => rfl
  simp only [Shaped.fault?_seq, Shaped.fault?_fmap, fault?_optionalText _ _ hgood,
    fault?_optionalText _ _ fault?_scalarText, hcases.field, unbroken_truth.field, fault?_filters, Option.or_none]

theorem unbroken_rows : Unbroken rows := by
  intro d
  refine unbroken_record (fun entries => ?_) _
  simp only [Shaped.fault?_seq, Shaped.fault?_fmap, unbroken_text.field, unbroken_whole.field, fault?_filters,
    Option.or_none]

theorem unbroken_path : Unbroken path := by
  intro d
  refine unbroken_record (fun entries => ?_) _
  have hmethod : Unbroken fun d => choice Method.names (word d) := fun d => unbroken_choice _ _
  have hresponse : Unbroken response :=
    unbroken_record fun entries => (show Unbroken fun d => choice AnswerShape.names (word d) from
      fun d => unbroken_choice _ _).field entries "type" .html
  have hcategories : ∀ d, (path.categories d).fault? = none := by
    intro d
    unfold path.categories
    split
    · rw [Shaped.fault?_map]
      exact Shaped.fault?_inOrder_eq_none fault?_scalarText _
    · rfl
  simp only [Shaped.fault?_seq, Shaped.fault?_fmap, unbroken_text.required, hmethod.field, hresponse.field,
    (unbroken_formed hcategories unbroken_text.list).field, fault?_table, Option.or_none]

theorem unbroken_search : Unbroken search := by
  refine unbroken_record fun entries => ?_
  simp only [Shaped.fault?_seq, Shaped.fault?_fmap, unbroken_path.list.field,
    fault?_optionalText _ _ fun d => (rfl : (Shaped.good d).fault? = none), fault?_table, fault?_filters,
    unbroken_rows.field, (unbroken_text.table unbroken_field).field, Option.or_none]

theorem unbroken_mapping : Unbroken mapping := by
  refine unbroken_record fun entries => ?_
  have hscalar : Unbroken (formed scalarTextOrNone text) := unbroken_formed fault?_scalarTextOrNone unbroken_text
  simp only [Shaped.fault?_seq, Shaped.fault?_fmap, hscalar.required, hscalar.field, unbroken_text.required,
    Option.or_none]

theorem unbroken_links : Unbroken links := by
  intro d
  rw [links, Shaped.fault?_map]
  exact unbroken_text.list _

/-! ## Entries with their keys as texts -/

/-- **Where entries with their keys as texts break off.**  The value of an entry does, its key may be written, and all
entries in front of it come to something. -/
theorem fault?_textKeyed_eq_some_iff {value : Datum → Shaped Datum} {entries : List (Datum × Datum)} {f : Fault} :
    (textKeyed value entries).fault? = some f ↔
      ∃ before key d after, entries = before ++ (key, d) :: after ∧
        (∀ entry ∈ before, entry.1.isWritable = true ∧ ∃ t, value entry.2 = .good t) ∧
        key.isWritable = true ∧ (value d).fault? = some f := by
  have hgood : ∀ entry : Datum × Datum,
      (∃ p, ((written entry.1).andThen fun k => (value entry.2).map fun v => (k, v)) = .good p) ↔
        entry.1.isWritable = true ∧ ∃ t, value entry.2 = .good t := by
    intro entry
    rw [Shaped.andThen_map_eq_good_iff, written_eq_good_iff]
  have hfault : ∀ entry : Datum × Datum,
      ((written entry.1).andThen fun k => (value entry.2).map fun v => (k, v)).fault? = some f ↔
        entry.1.isWritable = true ∧ (value entry.2).fault? = some f := by
    intro entry
    rw [← written_eq_good_iff, Shaped.fault?_andThen]
    have hnone := fault?_written entry.1
    cases hkey : written entry.1 with
    | good t => simp
    | bad complaints => simp
    | broken e => simp [hkey] at hnone
  rw [textKeyed, Shaped.fault?_map, Shaped.fault?_inOrder_eq_some_iff]
  constructor
  · rintro ⟨before, ⟨key, d⟩, after, heq, hbefore, hentry⟩
    exact ⟨before, key, d, after, heq, fun entry hmem => (hgood entry).mp (hbefore entry hmem), (hfault (key, d)).mp hentry⟩
  · rintro ⟨before, key, d, after, heq, hbefore, hentry⟩
    exact ⟨before, (key, d), after, heq, fun entry hmem => (hgood entry).mpr (hbefore entry hmem),
      (hfault (key, d)).mpr hentry⟩

theorem unbroken_setting : Unbroken setting := by
  refine unbroken_record fun entries => ?_
  have hoptions : ∀ d, (setting.options d).fault? = none := by
    intro d
    unfold setting.options
    split
    · rename_i entries
      cases hfault : (textKeyed written entries).fault? with
      | none => rfl
      | some f =>
          obtain ⟨-, -, d, -, -, -, -, hd⟩ := fault?_textKeyed_eq_some_iff.mp hfault
          rw [fault?_written] at hd
          cases hd
    · rfl
  simp only [Shaped.fault?_seq, Shaped.fault?_fmap, unbroken_text.required, (unbroken_choice _).field,
    unbroken_text.field, unbroken_anything.field,
    (unbroken_formed hoptions (unbroken_text.table unbroken_text)).field, Option.or_none]

/-! ## Capabilities -/

/-- What is single has no items, and all else has some or none. -/
theorem itemsOf_cases (d : Datum) :
    d.isSingle = true ∧ itemsOf d = .error .wrongKind ∨ d.isSingle = false ∧ ∃ items, itemsOf d = .ok items := by
  cases d with
  | bool b => cases b <;> simp [itemsOf, Datum.isSingle]
  | int i => by_cases h : i = 0 <;> simp [itemsOf, Datum.isSingle, h]
  | float x => cases h : x.isZero <;> simp [itemsOf, Datum.isSingle, h]
  | _ => simp [itemsOf, Datum.isSingle]

/-- There are no items exactly where something stands that cannot be gone through. -/
theorem itemsOf_eq_error_iff {d : Datum} {f : Fault} : itemsOf d = .error f ↔ d.isSingle = true ∧ f = .wrongKind := by
  rcases itemsOf_cases d with ⟨hsingle, hitems⟩ | ⟨hsingle, items, hitems⟩
  · rw [hitems, Except.error.injEq, eq_comm]
    simp [hsingle]
  · simp [hitems, hsingle]

/-- A search mode that comes to a list of texts. -/
def IsMode (d : Datum) : Prop :=
  ∃ items, itemsOf d = .ok items ∧ ∀ item ∈ items, item.isWritable = true

/-- The parameters of a search mode come to something exactly where they are a mode's. -/
theorem parameters_eq_good_iff {d : Datum} : (∃ t, capabilities.parameters d = .good t) ↔ IsMode d := by
  rw [capabilities.parameters, IsMode]
  cases hitems : itemsOf d with
  | error e => simp [Shaped.ofExcept, Shaped.andThen]
  | ok items =>
      have hall : (∃ ts, Shaped.inOrder written items = .good ts) ↔ ∀ item ∈ items, item.isWritable = true := by
        rw [Shaped.inOrder_eq_good_iff]
        exact forall₂_congr fun item _ => written_eq_good_iff
      simp only [Shaped.ofExcept, Shaped.andThen, Except.ok.injEq, exists_eq_left', ← hall]
      cases Shaped.inOrder written items <;> simp [Shaped.map]

/-- The parameters of a search mode break off exactly where they cannot be gone through. -/
theorem fault?_parameters_eq_some_iff {d : Datum} {f : Fault} :
    (capabilities.parameters d).fault? = some f ↔ d.isSingle = true ∧ f = .wrongKind := by
  rw [← itemsOf_eq_error_iff, capabilities.parameters, Shaped.fault?_andThen]
  cases hitems : itemsOf d with
  | error e => simp [Shaped.ofExcept]
  | ok items =>
      simp only [Shaped.ofExcept, Shaped.fault?_map]
      rw [Shaped.fault?_inOrder_eq_none fault?_written]
      simp

/-- Search modes that break off: one that cannot be gone through, under a key that may be written, behind modes that come
to something. -/
def BreaksModes (d : Datum) : Prop :=
  ∃ before key mode after, d = .map (before ++ (key, mode) :: after) ∧
    (∀ entry ∈ before, entry.1.isWritable = true ∧ IsMode entry.2) ∧ key.isWritable = true ∧ mode.isSingle = true

theorem fault?_modes_eq_some_iff {d : Datum} {f : Fault} :
    (formed capabilities.modes (Shape.table text (Shape.list text)) d).fault? = some f ↔ BreaksModes d ∧ f = .wrongKind := by
  have hshape : (formed capabilities.modes (Shape.table text (Shape.list text)) d).fault? =
      (capabilities.modes d).fault? := by
    rw [formed, Shaped.fault?_andThen]
    cases capabilities.modes d with
    | good t => exact unbroken_text.table unbroken_text.list t
    | bad complaints => rfl
    | broken e => rfl
  rw [hshape]
  unfold capabilities.modes
  split
  · rename_i entries
    simp only [fault?_textKeyed_eq_some_iff, parameters_eq_good_iff, fault?_parameters_eq_some_iff, BreaksModes,
      Datum.map.injEq]
    constructor
    · rintro ⟨before, key, mode, after, heq, hbefore, hkey, hmode, hf⟩
      exact ⟨⟨before, key, mode, after, heq, hbefore, hkey, hmode⟩, hf⟩
    · rintro ⟨⟨before, key, mode, after, heq, hbefore, hkey, hmode⟩, hf⟩
      exact ⟨before, key, mode, after, heq, hbefore, hkey, hmode, hf⟩
  · rename_i hother
    simp only [Shaped.fault?_good, false_iff, reduceCtorEq]
    rintro ⟨⟨before, key, mode, after, rfl, -⟩, -⟩
    exact hother _ rfl

/-- What capabilities give as mappings. -/
def givenMappings (entries : List (Datum × Datum)) : Datum :=
  (Datum.lookup? (.text "categorymappings") entries).getD .null

/-- Capabilities whose table of categories, where they have one, can be put among the mappings that are given. -/
def Merges (entries : List (Datum × Datum)) : Prop :=
  ∀ table, Datum.lookup? (.text "categories") entries = some (.map table) →
    (givenMappings entries).isSingle = false ∧ ∀ entry ∈ table, entry.1.isWritable = true ∧ entry.2.isWritable = true

/-- A table of categories beside mappings that cannot be gone through. -/
def BreaksMappings (entries : List (Datum × Datum)) : Prop :=
  ∃ table, Datum.lookup? (.text "categories") entries = some (.map table) ∧ (givenMappings entries).isSingle = true

/-- What an entry of a table of categories is merged as. -/
def mergedMapping (entry : Datum × Datum) : Datum :=
  .object [("id", .text entry.1.printed), ("cat", .text entry.2.printed)]

/-- An entry of a table of categories is merged exactly where both parts of it may be written. -/
theorem mappingOf_eq_iff {entry : Datum × Datum} {t : Datum} :
    capabilities.mappingOf entry = .good t ↔
      (entry.1.isWritable = true ∧ entry.2.isWritable = true) ∧ t = mergedMapping entry := by
  simp only [capabilities.mappingOf, Shaped.andThen_eq_good_iff, Shaped.map_eq_good_iff, written_eq_iff]
  constructor
  · rintro ⟨_, ⟨hid, rfl⟩, _, ⟨hcat, rfl⟩, rfl⟩
    exact ⟨⟨hid, hcat⟩, rfl⟩
  · rintro ⟨⟨hid, hcat⟩, rfl⟩
    exact ⟨_, ⟨hid, rfl⟩, _, ⟨hcat, rfl⟩, rfl⟩

/-- An entry of a table of categories is a mapping exactly when both parts of it may be written. -/
theorem mappingOf_eq_good_iff {entry : Datum × Datum} :
    (∃ t, capabilities.mappingOf entry = .good t) ↔ entry.1.isWritable = true ∧ entry.2.isWritable = true := by
  simp [mappingOf_eq_iff]

theorem fault?_mappingOf (entry : Datum × Datum) : (capabilities.mappingOf entry).fault? = none :=
  Shaped.fault?_andThen_eq_none (fault?_written _) fun id => by rw [Shaped.fault?_map, fault?_written]

/-- A table of categories can be put among mappings exactly when each of its entries is a mapping. -/
theorem merges_iff {entries table : List (Datum × Datum)}
    (htable : Datum.lookup? (.text "categories") entries = some (.map table))
    (hsingle : (givenMappings entries).isSingle = false) :
    (∃ more, Shaped.inOrder capabilities.mappingOf table = .good more) ↔ Merges entries := by
  rw [Shaped.inOrder_eq_good_iff]
  constructor
  · intro h table' htable'
    rw [htable] at htable'
    obtain rfl : table = table' := Datum.map.inj (Option.some.inj htable')
    exact ⟨hsingle, fun entry hmem => mappingOf_eq_good_iff.mp (h entry hmem)⟩
  · intro h entry hmem
    exact mappingOf_eq_good_iff.mpr ((h table htable).2 entry hmem)

/-- **What becomes of a table of categories.**  It breaks the reading off beside mappings that cannot be gone through; else
it is put among the mappings, which changes no search modes, or it is complained about. -/
theorem merged_cases (entries : List (Datum × Datum)) :
    (BreaksMappings entries ∧ capabilities.merged (.map entries) = .broken .wrongKind) ∨
    (¬ BreaksMappings entries ∧ ¬ Merges entries ∧ ∃ complaints, capabilities.merged (.map entries) = .bad complaints) ∨
    (¬ BreaksMappings entries ∧ Merges entries ∧ ∃ more, capabilities.merged (.map entries) = .good (.map more) ∧
      Datum.lookup? (.text "modes") more = Datum.lookup? (.text "modes") entries) := by
  simp only [capabilities.merged]
  rw [← givenMappings]
  split
  · rename_i table htable
    cases hitems : itemsOf (givenMappings entries) with
    | error e =>
        obtain ⟨hsingle, rfl⟩ := itemsOf_eq_error_iff.mp hitems
        exact .inl ⟨⟨table, htable, hsingle⟩, rfl⟩
    | ok given =>
        have hsingle : (givenMappings entries).isSingle = false := by
          rcases itemsOf_cases (givenMappings entries) with ⟨-, hnone⟩ | ⟨hsingle, -⟩
          · rw [hnone] at hitems
            cases hitems
          · exact hsingle
        have hwhole : ¬ BreaksMappings entries := by
          rintro ⟨-, -, h⟩
          rw [hsingle] at h
          cases h
        have hmerges := merges_iff htable hsingle
        simp only [Shaped.ofExcept, Shaped.andThen]
        cases hmore : Shaped.inOrder capabilities.mappingOf table with
        | good more =>
            exact .inr (.inr ⟨hwhole, hmerges.mp ⟨more, hmore⟩, _, rfl, Datum.lookup?_insert_of_ne (by decide) _ entries⟩)
        | bad complaints =>
            refine .inr (.inl ⟨hwhole, fun h => ?_, complaints, rfl⟩)
            obtain ⟨more, hgood⟩ := hmerges.mpr h
            rw [hmore] at hgood
            cases hgood
        | broken e =>
            have hnone := Shaped.fault?_inOrder_eq_none fault?_mappingOf table
            rw [hmore] at hnone
            cases hnone
  · rename_i hother
    have hnone : ∀ table, Datum.lookup? (.text "categories") entries ≠ some (.map table) := fun table h => hother table h
    refine .inr (.inr ⟨?_, fun table htable => absurd htable (hnone table), entries, rfl, rfl⟩)
    rintro ⟨table, htable, -⟩
    exact hnone table htable

/-- Capabilities that break the reading of a definition. -/
inductive BreaksCapabilities : Datum → Prop
  /-- Beside a table of categories the mappings cannot be gone through. -/
  | mappings {entries : List (Datum × Datum)} (h : BreaksMappings entries) : BreaksCapabilities (.map entries)
  /-- A search mode cannot be gone through, and everything in front of it is well. -/
  | modes {entries : List (Datum × Datum)} {d : Datum} (hmerges : Merges entries)
      (hmodes : Datum.lookup? (.text "modes") entries = some d) (h : BreaksModes d) : BreaksCapabilities (.map entries)

/-- **When capabilities break off.** -/
theorem fault?_capabilities_eq_some_iff {d : Datum} {f : Fault} :
    (capabilities d).fault? = some f ↔ BreaksCapabilities d ∧ f = .wrongKind := by
  rw [capabilities, formed, Shaped.fault?_andThen]
  cases d with
  | map entries =>
      -- behind the merging only search modes can break off
      have hmodes : ∀ more, Datum.lookup? (.text "modes") more = Datum.lookup? (.text "modes") entries →
          (((fun mappings modes => Capabilities.mk mappings modes) <$>
              Shape.field more "categorymappings" (Shape.list mapping) [] <*>
              Shape.field more "modes" (formed capabilities.modes (Shape.table text (Shape.list text))) []).fault? =
            some f ↔ (∃ d, Datum.lookup? (.text "modes") entries = some d ∧ BreaksModes d) ∧ f = .wrongKind) := by
        intro more hsame
        rw [Shaped.fault?_seq, Shaped.fault?_fmap, unbroken_mapping.list.field, Option.none_or, Shape.field, hsame]
        cases Datum.lookup? (.text "modes") entries with
        | none => simp
        | some d => simp [fault?_modes_eq_some_iff]
      rcases merged_cases entries with ⟨hbreaks, hmerged⟩ | ⟨hwhole, hmerges, complaints, hmerged⟩ |
        ⟨hwhole, hmerges, more, hmerged, hsame⟩
      · rw [hmerged]
        simp [BreaksCapabilities.mappings hbreaks, eq_comm]
      · rw [hmerged]
        simp only [reduceCtorEq, false_iff]
        rintro ⟨h, -⟩
        cases h with
        | mappings h => exact hwhole h
        | modes h _ _ => exact hmerges h
      · rw [hmerged]
        refine (hmodes more hsame).trans (and_congr_left' ⟨?_, ?_⟩)
        · rintro ⟨d, hd, hbreaks⟩
          exact .modes hmerges hd hbreaks
        · intro h
          cases h with
          | mappings h => exact absurd h hwhole
          | modes _ hd h => exact ⟨_, hd, h⟩
  | _ =>
      simp only [capabilities.merged, Shape.record, Shaped.fault?_complain, reduceCtorEq, false_iff]
      rintro ⟨h, -⟩
      cases h

end Form

/-! ## Definitions -/

/-- **When a definition breaks off.**  Its capabilities do. -/
theorem Draft.fault?_shape_eq_some_iff {entries : List (Datum × Datum)} {f : Fault} :
    (Draft.shape (.map entries)).fault? = some f ↔
      (∃ caps, Datum.lookup? (.text "caps") entries = some caps ∧ Form.BreaksCapabilities caps) ∧ f = .wrongKind := by
  have hscalar : Shape.Unbroken (Form.formed Form.scalarTextOrNone Shape.text) :=
    Form.unbroken_formed Form.fault?_scalarTextOrNone Shape.unbroken_text
  have hword : Shape.Unbroken fun d => Shape.text (Form.word d) := fun d => Shape.unbroken_text _
  simp only [Draft.shape, Shape.record, Shaped.fault?_seq, Shaped.fault?_fmap, hscalar.field, Shape.unbroken_text.field,
    hword.field, (Shape.unbroken_choice _).field, Shape.unbroken_whole.field, Form.unbroken_links.field,
    Form.unbroken_setting.list.field, Form.unbroken_search.field, Option.or_none, Option.none_or]
  rw [Shape.field]
  cases Datum.lookup? (.text "caps") entries with
  | none => simp
  | some caps => simp [Form.fault?_capabilities_eq_some_iff]

namespace Definition

/-- A text that breaks the reading of a definition. -/
inductive BreaksOff (text : String) : Fault → Prop
  /-- Something is misspelled. -/
  | misspelled {f : Fault} (h : Yaml.Misspells text f) : BreaksOff text f
  /-- The capabilities break off. -/
  | capabilities {entries : List (Datum × Datum)} {caps : Datum} (hread : Yaml.read text = .ok (.map entries))
      (hcaps : Datum.lookup? (.text "caps") entries = some caps) (h : Form.BreaksCapabilities caps) :
      BreaksOff text .wrongKind
  /-- All is of the right shape, and among the cases of its fields is a number that is too long to be written. -/
  | cases {entries : List (Datum × Datum)} {draft : Draft} {value : Datum}
      (hread : Yaml.read text = .ok (.map entries)) (hshape : Draft.shape (.map entries) = .good draft)
      (hvalue : value ∈ Form.caseValues (.map entries)) (h : value.isWritable = false) : BreaksOff text .notANumber

/-- Nothing that a draft lacks breaks off. -/
theorem definition?_ne_fault (draft : Draft) (f : Fault) : draft.definition? ≠ .error (.fault f) := by
  rw [Draft.definition?]
  split <;> simp

/-- **When a document breaks off.** -/
theorem ofDatum_eq_fault_iff {entries : List (Datum × Datum)} {f : Fault} :
    ofDatum (.map entries) = .error (.fault f) ↔
      ((∃ caps, Datum.lookup? (.text "caps") entries = some caps ∧ Form.BreaksCapabilities caps) ∧ f = .wrongKind) ∨
      ((∃ draft, Draft.shape (.map entries) = .good draft) ∧
        (∃ value ∈ Form.caseValues (.map entries), value.isWritable = false) ∧ f = .notANumber) := by
  rw [← Draft.fault?_shape_eq_some_iff, ofDatum]
  cases hshape : Draft.shape (.map entries) with
  | bad complaints => simp
  | broken e => simp
  | good draft =>
      by_cases hwritable : (Form.caseValues (.map entries)).all Datum.isWritable = true
      · have hnone : ¬ ∃ value ∈ Form.caseValues (.map entries), value.isWritable = false := by
          rintro ⟨value, hvalue, h⟩
          rw [List.all_eq_true.mp hwritable value hvalue] at h
          cases h
        simp [hwritable, hnone, definition?_ne_fault]
      · have hsome : ∃ value ∈ Form.caseValues (.map entries), value.isWritable = false := by
          simpa using hwritable
        simp only [hwritable, hsome, Shaped.fault?_good, reduceCtorEq, false_or, true_and, Bool.false_eq_true, if_false,
          Except.error.injEq, Rejection.fault.injEq, Shaped.good.injEq, exists_eq']
        exact eq_comm

/-- What is read of a text breaks off exactly where the text does. -/
theorem ofText_eq_fault_iff {text : String} {f : Fault} :
    ofText text = .error (.fault f) ↔ BreaksOff text f := by
  constructor
  · intro h
    unfold ofText at h
    split at h
    · cases h
    · rename_i e hread
      rw [Rejection.fault.inj (Except.error.inj h)] at hread
      exact .misspelled (Yaml.read_eq_fault_iff.mp hread)
    · cases h
    · rename_i entries hread
      rcases ofDatum_eq_fault_iff.mp h with ⟨⟨caps, hcaps, hbreaks⟩, rfl⟩ | ⟨⟨draft, hshape⟩, ⟨value, hvalue, hlong⟩, rfl⟩
      · exact .capabilities hread hcaps hbreaks
      · exact .cases hread hshape hvalue hlong
    · cases h
  · intro h
    cases h with
    | misspelled h => simp [ofText, Yaml.read_eq_fault_iff.mpr h]
    | capabilities hread hcaps h => simp [ofText, hread, ofDatum_eq_fault_iff.mpr (.inl ⟨⟨_, hcaps, h⟩, rfl⟩)]
    | cases hread hshape hvalue h =>
        simp [ofText, hread, ofDatum_eq_fault_iff.mpr (.inr ⟨⟨_, hshape⟩, ⟨_, hvalue, h⟩, rfl⟩)]

/-- **When a file breaks the reading of its definition off.**  It holds a text, and the text does. -/
theorem ofFile_eq_fault_iff {bytes : List UInt8} {f : Fault} :
    ofFile bytes = .error (.fault f) ↔ ∃ text, fileText? bytes = some text ∧ BreaksOff text f := by
  rw [ofFile]
  cases fileText? bytes with
  | none => simp
  | some text => simp [ofText_eq_fault_iff]

end Definition

end MetaSearch
