import MetaSearch.Proofs.Shape.Read

/-!
# Changes that readings do not show

A document may be changed without a change in what is read of it.  Nothing that is read of the old one is lost in the new one
(`Shaped.Keeps`), and a shape allows a change of data if it keeps what it reads of any of them (`Shape.Allows`).

Changes are made at one place: under one text of a map (`ChangedUnder`), in one item of a list (`ChangedItem`) or in one value
of a table (`ChangedValue`).  What allows a change allows it at a place, and so up to the whole document.
-/

namespace MetaSearch

/-! ## Readings -/

namespace Shaped

variable {α β : Type}

/-- The second reading comes to whatever the first comes to. -/
def Keeps (x y : Shaped α) : Prop :=
  ∀ a, x = good a → y = good a

namespace Keeps

theorem refl (x : Shaped α) : x.Keeps x := fun _ h => h

theorem of_eq {x y : Shaped α} (h : x = y) : x.Keeps y := h ▸ refl x

theorem map (f : α → β) {x y : Shaped α} (h : x.Keeps y) : (x.map f).Keeps (y.map f) := by
  intro b hb
  obtain ⟨a, ha, rfl⟩ := map_eq_good_iff.mp hb
  exact map_eq_good_iff.mpr ⟨a, h a ha, rfl⟩

theorem under (key key' : String) {x y : Shaped α} (h : x.Keeps y) : (x.under key).Keeps (y.under key') := fun a ha =>
  under_eq_good_iff.mpr (h a (under_eq_good_iff.mp ha))

theorem both {x x' : Shaped α} {y y' : Shaped β} (hx : x.Keeps x') (hy : y.Keeps y') : (x.both y).Keeps (x'.both y') := by
  intro p hp
  obtain ⟨ha, hb⟩ := both_eq_good_iff.mp hp
  exact both_eq_good_iff.mpr ⟨hx _ ha, hy _ hb⟩

theorem fmap (f : α → β) {x y : Shaped α} (h : x.Keeps y) : (f <$> x).Keeps (f <$> y) := by
  intro b hb
  obtain ⟨a, ha, rfl⟩ := fmap_eq_good_iff.mp hb
  exact fmap_eq_good_iff.mpr ⟨a, h a ha, rfl⟩

theorem seq {f g : Shaped (α → β)} {x y : Shaped α} (hf : f.Keeps g) (hx : x.Keeps y) : (f <*> x).Keeps (g <*> y) := by
  intro b hb
  obtain ⟨k, a, hk, ha, rfl⟩ := seq_eq_good_iff.mp hb
  exact seq_eq_good_iff.mpr ⟨k, a, hf k hk, hx a ha, rfl⟩

end Keeps

end Shaped

/-! ## Changes at one place -/

namespace Datum

/-- Maps with the same under all texts but some. -/
def Alike (names : List String) (entries entries' : List (Datum × Datum)) : Prop :=
  ∀ other, other ∉ names → lookup? (.text other) entries' = lookup? (.text other) entries

/-- Maps that differ in what lies under one text only, and there by a change. -/
structure ChangedEntry (name : String) (change : Datum → Datum → Prop) (entries entries' : List (Datum × Datum)) : Prop where
  changed : ∃ d d', lookup? (.text name) entries = some d ∧ lookup? (.text name) entries' = some d' ∧ change d d'
  others : Alike [name] entries entries'

/-- A change under one text of a map. -/
inductive ChangedUnder (name : String) (change : Datum → Datum → Prop) : Datum → Datum → Prop
  | intro {entries entries' : List (Datum × Datum)} (h : ChangedEntry name change entries entries') :
      ChangedUnder name change (.map entries) (.map entries')

/-- A change in one item of a list. -/
inductive ChangedItem (change : Datum → Datum → Prop) : Datum → Datum → Prop
  | intro (before : List Datum) {d d' : Datum} (h : change d d') (after : List Datum) :
      ChangedItem change (.list (before ++ d :: after)) (.list (before ++ d' :: after))

/-- A change in one value of a table. -/
inductive ChangedValue (change : Datum → Datum → Prop) : Datum → Datum → Prop
  | intro (before : List (Datum × Datum)) (key : Datum) {d d' : Datum} (h : change d d') (after : List (Datum × Datum)) :
      ChangedValue change (.map (before ++ (key, d) :: after)) (.map (before ++ (key, d') :: after))

/-- What is put under a text changes nothing else. -/
theorem alike_insert (name : String) (d : Datum) (entries : List (Datum × Datum)) :
    Alike [name] entries (insert (.text name) d entries) := fun _ hother =>
  lookup?_insert_of_key_ne (fun heq => hother (List.mem_singleton.mpr (text.inj heq).symm)) d entries

/-- What lies under a text may be replaced. -/
theorem changedEntry_insert {name : String} {change : Datum → Datum → Prop} {entries : List (Datum × Datum)} {d d' : Datum}
    (hd : lookup? (.text name) entries = some d) (h : change d d') :
    ChangedEntry name change entries (insert (.text name) d' entries) where
  changed := ⟨d, d', hd, lookup?_insert_self name d' entries, h⟩
  others := alike_insert name d' entries

section Alike

variable {α : Type} {names : List String} {entries entries' : List (Datum × Datum)}

/-- What is read of another entry does not change. -/
theorem Alike.field (h : Alike names entries entries') {n : String} (hn : n ∉ names) (shape : Shape α) (fallback : α) :
    Shape.field entries' n shape fallback = Shape.field entries n shape fallback := by
  rw [Shape.field, Shape.field, h n hn]

theorem Alike.required (h : Alike names entries entries') {n : String} (hn : n ∉ names) (shape : Shape α) :
    Shape.required entries' n shape = Shape.required entries n shape := by
  rw [Shape.required, Shape.required, h n hn]

end Alike

end Datum

namespace Shape

open Datum Shaped

variable {α : Type} {shape : Shape α} {change : Datum → Datum → Prop} {name : String}
  {entries entries' : List (Datum × Datum)}

/-- A shape reads of changed data whatever it read of them before. -/
def Allows (shape : Shape α) (change : Datum → Datum → Prop) : Prop :=
  ∀ ⦃d d'⦄, change d d' → (shape d).Keeps (shape d')

/-- Where a change is made, what is read is kept by a shape that allows it. -/
theorem Allows.field (hshape : shape.Allows change) (h : ChangedEntry name change entries entries') (fallback : α) :
    (Shape.field entries name shape fallback).Keeps (Shape.field entries' name shape fallback) := by
  obtain ⟨d, d', hd, hd', hchange⟩ := h.changed
  rw [Shape.field, Shape.field, hd, hd']
  exact (hshape hchange).under name name

theorem Allows.required (hshape : shape.Allows change) (h : ChangedEntry name change entries entries') :
    (Shape.required entries name shape).Keeps (Shape.required entries' name shape) := by
  obtain ⟨d, d', hd, hd', hchange⟩ := h.changed
  rw [Shape.required, Shape.required, hd, hd']
  exact (hshape hchange).under name name

/-- Items that are kept one by one are kept as a list. -/
theorem itemsFrom_keeps {ds ds' : List Datum} (h : List.Forall₂ (fun d d' => (shape d).Keeps (shape d')) ds ds')
    (position : Nat) : (itemsFrom shape position ds).Keeps (itemsFrom shape position ds') := by
  induction h generalizing position with
  | nil => exact .refl _
  | cons hd _ ih => exact ((hd.under _ _).both (ih (position + 1))).map _

/-- What is allowed for the items of a list is allowed in a list. -/
theorem Allows.list (h : shape.Allows change) : (list shape).Allows (ChangedItem change) := by
  rintro _ _ ⟨before, hchange, after⟩
  refine itemsFrom_keeps (List.rel_append (List.forall₂_same.mpr fun d _ => .refl (shape d)) (.cons (h hchange) ?_)) 0
  exact List.forall₂_same.mpr fun d _ => .refl (shape d)

/-- What is allowed for the values of a table is allowed in a table. -/
theorem Allows.table (h : shape.Allows change) (key : Shape String) : (table key shape).Allows (ChangedValue change) := by
  rintro _ _ ⟨before, k, hchange, after⟩
  refine Keeps.map _ ?_
  induction before with
  | nil => exact (((Keeps.refl _).both ((h hchange).under _ _)).both (.refl _)).map _
  | cons entry before ih => exact ((Keeps.refl _).both ih).map _

/-! ## Renamed fields of tables -/

theorem entriesOf_append_eq_good_iff {key : Shape String} {before after : List (Datum × Datum)} {fields : List (String × α)} :
    entriesOf key shape (before ++ after) = .good fields ↔
      ∃ first last, entriesOf key shape before = .good first ∧ entriesOf key shape after = .good last ∧
        fields = first ++ last := by
  induction before generalizing fields with
  | nil => simp [entriesOf]
  | cons entry before ih =>
      obtain ⟨k, d⟩ := entry
      simp only [List.cons_append, entriesOf_cons_eq_good_iff, ih]
      constructor
      · rintro ⟨name, a, _, hk, hd, ⟨first, last, hfirst, hlast, rfl⟩, rfl⟩
        exact ⟨(name, a) :: first, last, ⟨name, a, first, hk, hd, hfirst, rfl⟩, hlast, rfl⟩
      · rintro ⟨_, last, ⟨name, a, first, hk, hd, hfirst, rfl⟩, hlast, rfl⟩
        exact ⟨name, a, first ++ last, hk, hd, ⟨first, last, hfirst, hlast, rfl⟩, rfl⟩

/-- The name of a field is that of an entry. -/
theorem exists_key_of_mem_entriesOf {key : Shape String} {fields : List (String × α)}
    (h : entriesOf key shape entries = .good fields) {name : String} (hname : name ∈ fields.map (·.1)) :
    ∃ entry ∈ entries, key entry.1 = .good name := by
  induction entries generalizing fields with
  | nil =>
      obtain rfl : fields = [] := by simpa [entriesOf] using h.symm
      cases hname
  | cons entry rest ih =>
      obtain ⟨k, d⟩ := entry
      obtain ⟨n, a, more, hk, -, hmore, rfl⟩ := entriesOf_cons_eq_good_iff.mp h
      rcases List.mem_cons.mp hname with rfl | hname
      · exact ⟨(k, d), List.mem_cons_self, hk⟩
      · obtain ⟨entry, hentry, hkey⟩ := ih hmore hname
        exact ⟨entry, List.mem_cons_of_mem _ hentry, hkey⟩

end Shape

namespace Fields

variable {α : Type}

/-- A field that is set lies in front of one of another name or behind it. -/
theorem put_append_cons {n name : String} (h : n ≠ name) (v value : α) (front back : List (String × α)) :
    put n v (front ++ (name, value) :: back) =
      if n ∈ front.map (·.1) then put n v front ++ (name, value) :: back else front ++ (name, value) :: put n v back := by
  induction front with
  | nil => simp [put, Ne.symm h]
  | cons field front ih =>
      obtain ⟨m, w⟩ := field
      by_cases hm : m = n
      · simp [put, hm]
      · rw [List.cons_append, put, if_neg hm, ih, put, if_neg hm]
        by_cases hmem : n ∈ front.map (·.1)
        · simp [hmem]
        · simp [hmem, Ne.symm hm]

/-- What is set beside a field does not hang on that field. -/
theorem exists_merge_append_cons (front back more : List (String × α)) :
    ∃ front' back', ∀ name value, name ∉ more.map (·.1) →
      merge (front ++ (name, value) :: back) more = front' ++ (name, value) :: back' := by
  induction more generalizing front back with
  | nil => exact ⟨front, back, fun _ _ _ => rfl⟩
  | cons field more ih =>
      obtain ⟨n, v⟩ := field
      obtain ⟨front', back', hstep⟩ := ih (if n ∈ front.map (·.1) then put n v front else front)
        (if n ∈ front.map (·.1) then back else put n v back)
      refine ⟨front', back', fun name value hname => ?_⟩
      rw [List.map_cons, List.mem_cons, not_or] at hname
      rw [← hstep name value hname.2]
      change merge (put n v (front ++ (name, value) :: back)) more = _
      rw [put_append_cons (Ne.symm hname.1)]
      split <;> rfl

/-- **A field of a name of its own** lies between the same fields, whatever it is. -/
theorem exists_merge_of_fresh (before after : List (String × α)) :
    ∃ front back, ∀ name value, name ∉ before.map (·.1) → name ∉ after.map (·.1) →
      merge [] (before ++ (name, value) :: after) = front ++ (name, value) :: back := by
  obtain ⟨front, back, hmerge⟩ := exists_merge_append_cons (merge [] before) [] after
  refine ⟨front, back, fun name value hbefore hafter => ?_⟩
  have hnew : name ∉ (merge [] before).map (·.1) := by
    intro hmem
    obtain ⟨field, hfield, heq⟩ := List.mem_map.mp hmem
    exact hbefore (List.mem_map.mpr ⟨field, (mem_merge hfield).resolve_left List.not_mem_nil, heq⟩)
  rw [← hmerge name value hafter, ← put_of_not_mem hnew value, merge_append]
  rfl

end Fields

end MetaSearch
