import MetaSearch.Shape.Scalar

/-!
# Readings that break off

A document that does not fit its shape is complained about, and only what goes wrong outside of shapes breaks a reading
off.  `fault?` tells how a reading broke off, and its lemmas follow the ways in which readings are put together: readings
side by side break off where the first of them does, and readings one after the other where everything in front is good
(`Shaped.fault?_inOrder_eq_some_iff`).

Shapes that are put together from shapes that never break off never break off either (`Shape.Unbroken`).
-/

namespace MetaSearch

/-- An item with nothing but items of a kind in front of it is the first of a list, or the first is of that kind and the
item stands in the rest. -/
theorem exists_behind_cons_iff {α : Type} {p q : α → Prop} {a : α} {as : List α} :
    (∃ before x after, a :: as = before ++ x :: after ∧ (∀ c ∈ before, p c) ∧ q x) ↔
      q a ∨ p a ∧ ∃ before x after, as = before ++ x :: after ∧ (∀ c ∈ before, p c) ∧ q x := by
  constructor
  · rintro ⟨before, x, after, heq, hbefore, hx⟩
    cases before with
    | nil =>
        obtain ⟨rfl, -⟩ := List.cons.inj heq
        exact .inl hx
    | cons b before =>
        obtain ⟨rfl, rfl⟩ := List.cons.inj heq
        obtain ⟨ha, hbefore⟩ := List.forall_mem_cons.mp hbefore
        exact .inr ⟨ha, before, x, after, rfl, hbefore, hx⟩
  · rintro (ha | ⟨ha, before, x, after, rfl, hbefore, hx⟩)
    · exact ⟨[], a, as, rfl, List.forall_mem_nil p, ha⟩
    · exact ⟨a :: before, x, after, rfl, List.forall_mem_cons.mpr ⟨ha, hbefore⟩, hx⟩

namespace Shaped

variable {α β γ : Type}

/-- How a reading broke off, if it did. -/
def fault? : Shaped α → Option Fault
  | broken f => some f
  | _ => none

@[simp] theorem fault?_good (a : α) : (good a).fault? = none := rfl

@[simp] theorem fault?_bad (complaints : List Complaint) : (bad complaints : Shaped α).fault? = none := rfl

@[simp] theorem fault?_broken (f : Fault) : (broken f : Shaped α).fault? = some f := rfl

@[simp] theorem fault?_complain (reason : String) : (complain reason : Shaped α).fault? = none := rfl

@[simp] theorem fault?_map (f : α → β) (x : Shaped α) : (x.map f).fault? = x.fault? := by
  cases x <;> rfl

@[simp] theorem fault?_both (x : Shaped α) (y : Shaped β) : (x.both y).fault? = x.fault?.or y.fault? := by
  cases x <;> cases y <;> rfl

@[simp] theorem fault?_under (key : String) (x : Shaped α) : (x.under key).fault? = x.fault? := by
  cases x <;> rfl

@[simp] theorem fault?_fmap (f : α → β) (x : Shaped α) : (f <$> x).fault? = x.fault? := by
  cases x <;> rfl

@[simp] theorem fault?_seq (f : Shaped (α → β)) (x : Shaped α) : (f <*> x).fault? = f.fault?.or x.fault? := by
  change ((f.both x).map fun both => both.1 both.2).fault? = f.fault?.or x.fault?
  rw [fault?_map, fault?_both]

/-- Nothing breaks off behind a reading that comes to nothing. -/
theorem fault?_andThen (x : Shaped α) (f : α → Shaped β) :
    (x.andThen f).fault? = match x with
      | good a => (f a).fault?
      | bad _ => none
      | broken f => some f := by
  cases x <;> rfl

/-- A reading that goes on breaks off only where one of the two does. -/
theorem fault?_andThen_eq_none {x : Shaped α} {f : α → Shaped β} (hx : x.fault? = none)
    (hf : ∀ a, (f a).fault? = none) : (x.andThen f).fault? = none := by
  cases x with
  | good a => exact hf a
  | bad complaints => rfl
  | broken e => cases hx

/-- Two readings, the second behind the first, come to something exactly when both do. -/
theorem andThen_map_eq_good_iff {x : Shaped α} {y : Shaped β} {g : α → β → γ} :
    (∃ c, (x.andThen fun a => y.map (g a)) = good c) ↔ (∃ a, x = good a) ∧ ∃ b, y = good b := by
  cases x <;> cases y <;> simp [andThen, map]

/-- Readings one after the other come to something exactly when each of them does. -/
theorem inOrder_eq_good_iff {f : α → Shaped β} {as : List α} :
    (∃ bs, inOrder f as = good bs) ↔ ∀ a ∈ as, ∃ b, f a = good b := by
  induction as with
  | nil => simp [inOrder]
  | cons a as ih => rw [List.forall_mem_cons, ← ih, inOrder, andThen_map_eq_good_iff]

/-- Behind a reading that came to something the others are left. -/
theorem fault?_inOrder_cons {f : α → Shaped β} {a : α} {b : β} (h : f a = good b) (as : List α) :
    (inOrder f (a :: as)).fault? = (inOrder f as).fault? := by
  rw [inOrder, h, andThen, fault?_map]

/-- **Where readings one after the other break off.**  One of them does, and all in front of it came to something. -/
theorem fault?_inOrder_eq_some_iff {f : α → Shaped β} {as : List α} {e : Fault} :
    (inOrder f as).fault? = some e ↔
      ∃ before a after, as = before ++ a :: after ∧ (∀ c ∈ before, ∃ b, f c = good b) ∧ (f a).fault? = some e := by
  induction as with
  | nil => simp [inOrder]
  | cons a as ih =>
      rw [exists_behind_cons_iff, ← ih]
      cases hfirst : f a with
      | good b => simp [fault?_inOrder_cons hfirst]
      | bad complaints => simp [inOrder, hfirst, fault?_andThen]
      | broken e' => simp [inOrder, hfirst, fault?_andThen]

/-- Readings one after the other do not break off where none of them does. -/
theorem fault?_inOrder_eq_none {f : α → Shaped β} (h : ∀ a, (f a).fault? = none) (as : List α) :
    (inOrder f as).fault? = none := by
  cases hfault : (inOrder f as).fault? with
  | none => rfl
  | some e =>
      obtain ⟨-, a, -, -, -, ha⟩ := fault?_inOrder_eq_some_iff.mp hfault
      rw [h a] at ha
      cases ha

end Shaped

namespace Shape

variable {α β : Type}

/-- A shape that no document breaks the reading of. -/
def Unbroken (shape : Shape α) : Prop :=
  ∀ d, (shape d).fault? = none

theorem unbroken_text : Unbroken text := by
  intro d
  unfold text
  split
  · rfl
  · split <;> rfl
  · rfl

theorem unbroken_choice (words : List (String × α)) : Unbroken (choice words) := by
  intro d
  unfold choice
  split <;> rfl

theorem unbroken_truth : Unbroken truth := by
  have hnumber : ∀ i, (truthOfNumber i).fault? = none := by
    intro i
    unfold truthOfNumber
    split
    · rfl
    · split <;> rfl
  intro d
  unfold truth
  split
  · rfl
  · exact hnumber _
  · split
    · exact hnumber _
    · rfl
  · split <;> rfl
  · rfl

theorem unbroken_whole : Unbroken whole := by
  intro d
  unfold whole
  split
  · rfl
  · rfl
  · split
    · rfl
    · split
      · split <;> rfl
      · rfl
  · split
    · rfl
    · split <;> rfl
  · rfl

theorem unbroken_anything : Unbroken anything := fun _ => rfl

theorem Unbroken.orNull {shape : Shape α} (h : Unbroken shape) : Unbroken (orNull shape) := by
  intro d
  unfold Shape.orNull
  split
  · rfl
  · rw [Shaped.fault?_map, h]

/-- The entries of a record that are read with unbroken shapes do not break its reading. -/
theorem Unbroken.field {shape : Shape α} (h : Unbroken shape) (entries : List (Datum × Datum)) (name : String)
    (fallback : α) : (Shape.field entries name shape fallback).fault? = none := by
  unfold Shape.field
  split
  · rw [Shaped.fault?_under, h]
  · rfl

theorem Unbroken.required {shape : Shape α} (h : Unbroken shape) (entries : List (Datum × Datum)) (name : String) :
    (Shape.required entries name shape).fault? = none := by
  unfold Shape.required
  split
  · rw [Shaped.fault?_under, h]
  · rfl

/-- A record breaks no reading where none of its entries does. -/
theorem unbroken_record {name : String} {read : List (Datum × Datum) → Shaped α}
    (h : ∀ entries, (read entries).fault? = none) : Unbroken (record name read) := by
  intro d
  unfold record
  split
  · exact h _
  · rfl

theorem Unbroken.list {shape : Shape α} (h : Unbroken shape) : Unbroken (list shape) := by
  have hitems : ∀ ds position, (itemsFrom shape position ds).fault? = none := by
    intro ds
    induction ds with
    | nil => exact fun _ => rfl
    | cons d ds ih =>
        intro position
        rw [itemsFrom, Shaped.fault?_map, Shaped.fault?_both, Shaped.fault?_under, h, ih]
        rfl
  intro d
  unfold Shape.list
  split
  · exact hitems _ _
  · rfl

theorem Unbroken.table {key : Shape String} {shape : Shape α} (hkey : Unbroken key) (h : Unbroken shape) :
    Unbroken (table key shape) := by
  have hentries : ∀ entries, (entriesOf key shape entries).fault? = none := by
    intro entries
    induction entries with
    | nil => rfl
    | cons entry rest ih =>
        obtain ⟨k, d⟩ := entry
        simp only [entriesOf, Shaped.fault?_map, Shaped.fault?_both, Shaped.fault?_under, hkey k, h d, ih]
        rfl
  intro d
  unfold Shape.table
  split
  · rw [Shaped.fault?_map, hentries]
  · rfl

end Shape

end MetaSearch
