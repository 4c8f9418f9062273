import MetaSearch.Proofs.Datum.Keyed
import MetaSearch.Shape.Scalar

/-!
# Readings that come to something

What it takes that a reading comes to something, by the ways in which readings are put together.  `Shape.orDefault` is the
reading of what may be there or not.

* `Shape.lookup_table`: a table has under a name what its entry of that name is read as.
* `Shape.table_object` and `Shape.list_map`: a table and a list are read again from what they are written as, if what is in
  them is.
-/

namespace MetaSearch

namespace Shaped

variable {α β : Type}

/-- What was read, if anything was. -/
def good? : Shaped α → Option α
  | good a => some a
  | _ => none

theorem good?_eq_some_iff {x : Shaped α} {a : α} : x.good? = some a ↔ x = good a := by
  cases x <;> simp [good?]

theorem map_eq_good_iff {f : α → β} {x : Shaped α} {b : β} : x.map f = good b ↔ ∃ a, x = good a ∧ f a = b := by
  cases x <;> simp [map]

theorem under_eq_good_iff {key : String} {x : Shaped α} {a : α} : x.under key = good a ↔ x = good a := by
  cases x <;> simp [under]

theorem foldr_under_eq_good_iff {place : List String} {x : Shaped α} {a : α} :
    place.foldr under x = good a ↔ x = good a := by
  induction place with
  | nil => rfl
  | cons key place ih => rw [List.foldr_cons, under_eq_good_iff, ih]

theorem andThen_eq_good_iff {x : Shaped α} {f : α → Shaped β} {b : β} :
    x.andThen f = good b ↔ ∃ a, x = good a ∧ f a = good b := by
  cases x <;> simp [andThen]

theorem fmap_eq_good_iff {f : α → β} {x : Shaped α} {b : β} : f <$> x = good b ↔ ∃ a, x = good a ∧ f a = b := by
  cases x <;> simp [Functor.map, both, map]

theorem seq_eq_good_iff {f : Shaped (α → β)} {x : Shaped α} {b : β} :
    f <*> x = good b ↔ ∃ g a, f = good g ∧ x = good a ∧ g a = b := by
  change (f.both x).map (fun both => both.1 both.2) = good b ↔ _
  rw [map_eq_good_iff]
  constructor
  · rintro ⟨p, hp, heq⟩
    obtain ⟨hf, hx⟩ := both_eq_good_iff.mp hp
    exact ⟨p.1, p.2, hf, hx, heq⟩
  · rintro ⟨g, a, hf, hx, heq⟩
    exact ⟨(g, a), both_eq_good_iff.mpr ⟨hf, hx⟩, heq⟩

end Shaped

namespace Fields

variable {α : Type}

theorem mem_put {name : String} {value : α} {fields : List (String × α)} {field : String × α}
    (h : field ∈ put name value fields) : field = (name, value) ∨ field ∈ fields := by
  induction fields with
  | nil => exact .inl (List.mem_singleton.mp h)
  | cons first rest ih =>
      obtain ⟨n, v⟩ := first
      rw [put] at h
      split at h
      · rename_i hname
        rcases List.mem_cons.mp h with rfl | h
        · exact .inl (by rw [hname])
        · exact .inr (List.mem_cons_of_mem _ h)
      · rcases List.mem_cons.mp h with rfl | h
        · exact .inr List.mem_cons_self
        · exact (ih h).imp_right (List.mem_cons_of_mem _)

/-- A name that is not there yet is put at the end. -/
theorem put_of_not_mem {name : String} {fields : List (String × α)} (h : name ∉ fields.map (·.1)) (value : α) :
    put name value fields = fields ++ [(name, value)] := by
  induction fields with
  | nil => rfl
  | cons field rest ih =>
      obtain ⟨n, v⟩ := field
      rw [List.map_cons, List.mem_cons, not_or] at h
      rw [put, if_neg (Ne.symm h.1), ih h.2]
      rfl

theorem nodup_put {fields : List (String × α)} (h : (fields.map (·.1)).Nodup) (name : String) (value : α) :
    ((put name value fields).map (·.1)).Nodup := by
  induction fields with
  | nil => exact List.nodup_singleton name
  | cons field rest ih =>
      obtain ⟨n, v⟩ := field
      obtain ⟨hfirst, hrest⟩ := List.nodup_cons.mp h
      rw [put]
      split
      · exact List.nodup_cons.mpr ⟨hfirst, hrest⟩
      · rename_i hne
        refine List.nodup_cons.mpr ⟨fun hmem => ?_, ih hrest⟩
        obtain ⟨other, hother, heq⟩ := List.mem_map.mp hmem
        rcases mem_put hother with rfl | hother
        · exact hne heq.symm
        · exact hfirst (List.mem_map.mpr ⟨other, hother, heq⟩)

/-- No name is there twice where fields are set one after the other. -/
theorem nodup_merge {fields : List (String × α)} (h : (fields.map (·.1)).Nodup) (more : List (String × α)) :
    ((merge fields more).map (·.1)).Nodup :=
  List.foldlRecOn (motive := fun fields : List (String × α) => (fields.map (·.1)).Nodup) more _ h fun _ hfields field _ =>
    nodup_put hfields field.1 field.2

theorem mem_merge {fields more : List (String × α)} {field : String × α} (h : field ∈ merge fields more) :
    field ∈ fields ∨ field ∈ more := by
  induction more generalizing fields with
  | nil => exact .inl h
  | cons first more ih =>
      rcases @ih (put first.1 first.2 fields) h with h | h
      · rcases mem_put h with rfl | h
        · exact .inr List.mem_cons_self
        · exact .inl h
      · exact .inr (List.mem_cons_of_mem _ h)

/-- Fields with different names are set as they stand. -/
theorem merge_of_nodup {fields more : List (String × α)} (h : ((fields ++ more).map (·.1)).Nodup) :
    merge fields more = fields ++ more := by
  induction more generalizing fields with
  | nil => exact (List.append_nil fields).symm
  | cons first more ih =>
      have hnew : first.1 ∉ fields.map (·.1) := by
        rw [List.map_append, List.map_cons] at h
        exact fun hmem => (List.nodup_append.mp h).2.2 _ hmem _ List.mem_cons_self rfl
      rw [List.append_cons fields first more] at h ⊢
      rw [← ih h, ← put_of_not_mem hnew]
      rfl

end Fields

namespace Shape

open Datum Shaped

variable {α : Type}

/-- The reading of what may be there or not. -/
def orDefault (shape : Shape α) (fallback : α) (d : Option Datum) : Shaped α :=
  (d.map shape).getD (.good fallback)

@[simp] theorem orDefault_some (shape : Shape α) (fallback : α) (d : Datum) :
    orDefault shape fallback (some d) = shape d := rfl

/-- What holds of a fallback and of all that is read holds of what is read where something may be. -/
theorem of_orDefault {motive : α → Prop} {shape : Shape α} {fallback a : α} {d : Option Datum}
    (h : orDefault shape fallback d = .good a) (hfallback : motive fallback)
    (hshape : ∀ d a, shape d = .good a → motive a) : motive a := by
  cases d with
  | none => exact good.inj h ▸ hfallback
  | some d => exact hshape d a h

theorem field_eq_good_iff {entries : List (Datum × Datum)} {name : String} {shape : Shape α} {fallback a : α} :
    field entries name shape fallback = .good a ↔ orDefault shape fallback (lookup? (.text name) entries) = .good a := by
  rw [field]
  cases lookup? (.text name) entries with
  | none => rfl
  | some d => exact under_eq_good_iff

theorem required_eq_good_iff {entries : List (Datum × Datum)} {name : String} {shape : Shape α} {a : α} :
    required entries name shape = .good a ↔ ∃ d, lookup? (.text name) entries = some d ∧ shape d = .good a := by
  rw [required]
  cases lookup? (.text name) entries with
  | none => simp [complain, under]
  | some d => simp [under_eq_good_iff]

theorem record_eq_good_iff {name : String} {read : List (Datum × Datum) → Shaped α} {d : Datum} {a : α} :
    record name read d = .good a ↔ ∃ entries, d = .map entries ∧ read entries = .good a := by
  cases d <;> simp [record, complain]

/-! ## Tables -/

variable {key : Shape String} {shape : Shape α}

/-- One entry in front of others is read. -/
theorem entriesOf_cons_eq_good_iff {k d : Datum} {rest : List (Datum × Datum)} {fields : List (String × α)} :
    entriesOf key shape ((k, d) :: rest) = .good fields ↔
      ∃ name a more, key k = .good name ∧ shape d = .good a ∧ entriesOf key shape rest = .good more ∧
        fields = (name, a) :: more := by
  rw [entriesOf, map_eq_good_iff]
  constructor
  · rintro ⟨⟨⟨name, a⟩, more⟩, hboth, rfl⟩
    obtain ⟨hentry, hmore⟩ := both_eq_good_iff.mp hboth
    obtain ⟨hk, hd⟩ := both_eq_good_iff.mp hentry
    exact ⟨name, a, more, under_eq_good_iff.mp (under_eq_good_iff.mp hk), under_eq_good_iff.mp hd, hmore, rfl⟩
  · rintro ⟨name, a, more, hk, hd, hmore, rfl⟩
    exact ⟨((name, a), more), both_eq_good_iff.mpr ⟨both_eq_good_iff.mpr
      ⟨under_eq_good_iff.mpr (under_eq_good_iff.mpr hk), under_eq_good_iff.mpr hd⟩, hmore⟩, rfl⟩

/-- What stands under a name when the fields of a table are set one after the other. -/
theorem lookup_merge_entriesOf {name : String} {entries : List (Datum × Datum)} {more : List (String × α)}
    (h : entriesOf text shape entries = .good more) (hkeys : Distinct entries)
    (hname : ∀ entry ∈ entries, text entry.1 = .good name → entry.1 = .text name) (fields : List (String × α)) :
    match lookup? (.text name) entries with
    | some d => ∃ a, shape d = .good a ∧ (Fields.merge fields more).lookup name = some a
    | none => (Fields.merge fields more).lookup name = fields.lookup name := by
  induction entries generalizing more fields with
  | nil =>
      obtain rfl : more = [] := by simpa [entriesOf] using h.symm
      rfl
  | cons entry rest ih =>
      obtain ⟨k, d⟩ := entry
      obtain ⟨n, a, more, hk, hd, hmore, rfl⟩ := entriesOf_cons_eq_good_iff.mp h
      have hstep := ih hmore (List.pairwise_cons.mp hkeys).2
        (fun entry hentry => hname entry (List.mem_cons_of_mem _ hentry)) (Fields.put n a fields)
      by_cases hown : k = .text name
      · subst hown
        obtain rfl : name = n := Shaped.good.inj hk
        rw [hkeys.lookup?_eq_none, Fields.lookup_put_self] at hstep
        rw [lookup?_cons_self]
        exact ⟨a, hd, hstep⟩
      · have hne : name ≠ n := fun heq => hown (hname (k, d) List.mem_cons_self (heq ▸ hk))
        rw [Fields.lookup_put_of_ne hne] at hstep
        rw [lookup?_cons_of_ne hown]
        exact hstep

/-- **What a table has under a name**, where no key but the text of that name is read as it. -/
theorem lookup_table {entries : List (Datum × Datum)} {fields : List (String × α)} {name : String}
    (h : table text shape (.map entries) = .good fields) (hkeys : Distinct entries)
    (hname : ∀ entry ∈ entries, text entry.1 = .good name → entry.1 = .text name) :
    match lookup? (.text name) entries with
    | some d => ∃ a, shape d = .good a ∧ fields.lookup name = some a
    | none => fields.lookup name = none := by
  obtain ⟨more, hmore, rfl⟩ := map_eq_good_iff.mp h
  exact lookup_merge_entriesOf hmore hkeys hname []

/-- What a table that is read is made of. -/
theorem table_eq_good {d : Datum} {fields : List (String × α)} (h : table key shape d = .good fields) :
    (fields.map (·.1)).Nodup ∧ ∀ field ∈ fields, ∃ e, shape e = .good field.2 := by
  cases d with
  | map entries =>
      obtain ⟨more, hmore, rfl⟩ := map_eq_good_iff.mp h
      have hnone : (([] : List (String × α)).map (·.1)).Nodup := List.nodup_nil
      refine ⟨Fields.nodup_merge hnone more, fun field hfield => ?_⟩
      have hmem : field ∈ more := (Fields.mem_merge hfield).resolve_left List.not_mem_nil
      clear hfield h
      induction entries generalizing more with
      | nil =>
          obtain rfl : more = [] := by simpa [entriesOf] using hmore.symm
          cases hmem
      | cons entry rest ih =>
          obtain ⟨name, a, more, -, hd, hrest, rfl⟩ := entriesOf_cons_eq_good_iff.mp hmore
          rcases List.mem_cons.mp hmem with rfl | hmem
          · exact ⟨entry.2, hd⟩
          · exact ih more hrest hmem
  | _ => cases h

/-- **A table is read from a map of its fields**, each written as something that is read as its value. -/
theorem table_object {fields : List (String × α)} {write : α → Datum} (hnames : (fields.map (·.1)).Nodup)
    (hwrite : ∀ field ∈ fields, shape (write field.2) = .good field.2) :
    table text shape (object (fields.map fun field => (field.1, write field.2))) = .good fields := by
  have hentries : entriesOf text shape (fields.map fun field => (.text field.1, write field.2)) = .good fields := by
    clear hnames
    induction fields with
    | nil => rfl
    | cons field rest ih =>
        obtain ⟨hfirst, hrest⟩ := List.forall_mem_cons.mp hwrite
        exact entriesOf_cons_eq_good_iff.mpr ⟨field.1, field.2, rest, rfl, hfirst, ih hrest, rfl⟩
  rw [object, List.map_map, table]
  exact map_eq_good_iff.mpr ⟨fields, hentries, Fields.merge_of_nodup hnames⟩

/-! ## Lists -/

theorem itemsFrom_cons_eq_good_iff {position : Nat} {d : Datum} {ds : List Datum} {as : List α} :
    itemsFrom shape position (d :: ds) = .good as ↔
      ∃ a more, shape d = .good a ∧ itemsFrom shape (position + 1) ds = .good more ∧ as = a :: more := by
  rw [itemsFrom, map_eq_good_iff]
  constructor
  · rintro ⟨⟨a, more⟩, hboth, rfl⟩
    obtain ⟨ha, hmore⟩ := both_eq_good_iff.mp hboth
    exact ⟨a, more, under_eq_good_iff.mp ha, hmore, rfl⟩
  · rintro ⟨a, more, ha, hmore, rfl⟩
    exact ⟨(a, more), both_eq_good_iff.mpr ⟨under_eq_good_iff.mpr ha, hmore⟩, rfl⟩

/-- What a list that is read is made of. -/
theorem list_eq_good {d : Datum} {as : List α} (h : list shape d = .good as) : ∀ a ∈ as, ∃ e, shape e = .good a := by
  cases d with
  | list ds =>
      have hitems : ∀ (ds : List Datum) (position : Nat) (as : List α), itemsFrom shape position ds = .good as →
          ∀ a ∈ as, ∃ e, shape e = .good a := by
        intro ds
        induction ds with
        | nil =>
            rintro position as heq a ha
            obtain rfl : [] = as := good.inj heq
            cases ha
        | cons d ds ih =>
            rintro position as heq a ha
            obtain ⟨first, more, hfirst, hmore, rfl⟩ := itemsFrom_cons_eq_good_iff.mp heq
            rcases List.mem_cons.mp ha with rfl | ha
            · exact ⟨d, hfirst⟩
            · exact ih _ more hmore a ha
      exact hitems ds 0 as h
  | _ => cases h

/-- **A list is read from its items**, each written as something that is read as it. -/
theorem list_map {as : List α} {write : α → Datum} (hwrite : ∀ a ∈ as, shape (write a) = .good a) :
    list shape (.list (as.map write)) = .good as := by
  have hitems : ∀ position : Nat, itemsFrom shape position (as.map write) = .good as := by
    induction as with
    | nil => exact fun _ => rfl
    | cons a as ih =>
        obtain ⟨hfirst, hrest⟩ := List.forall_mem_cons.mp hwrite
        exact fun position => itemsFrom_cons_eq_good_iff.mpr ⟨a, as, hfirst, ih hrest _, rfl⟩
  exact hitems 0

end Shape

end MetaSearch
