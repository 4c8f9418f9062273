import MetaSearch.Release.Order
import Mathlib.Data.List.Basic

/-!
# Fewer releases in the same order

Sorting is stable, so that releases that are left out leave the others in their order: `sorted_sublist`.  It comes from
the same fact about one pass, `mergeSort_sublist`, which is by induction on what is left out.
-/

namespace MetaSearch

/-- What does not come behind an item of a sorted list, and what does. -/
theorem filter_sorted {α : Type} {le : α → α → Bool} {a : α} {front back : List α}
    (hfront : ∀ b ∈ front, (!le a b) = true) (hback : ∀ b ∈ back, le a b = true) :
    (front ++ back).filter (fun b => !le a b) = front ∧ (front ++ back).filter (le a) = back := by
  constructor
  · rw [List.filter_append, List.filter_eq_self.mpr hfront, List.filter_eq_nil_iff.mpr (by simpa using hback),
      List.append_nil]
  · rw [List.filter_append, List.filter_eq_self.mpr hback, List.filter_eq_nil_iff.mpr (by simpa using hfront),
      List.nil_append]

/-- A stable pass over some of the items leaves them in the order in which a pass over all items leaves them. -/
theorem mergeSort_sublist {α : Type} {le : α → α → Bool} (htrans : ∀ a b c, le a b → le b c → le a c)
    (htotal : ∀ a b, (le a b || le b a) = true) {some all : List α} (h : some.Sublist all) :
    (some.mergeSort le).Sublist (all.mergeSort le) := by
  induction h with
  | slnil => simp
  | @cons some all a _ ih =>
      obtain ⟨front, back, hall, hrest, -⟩ := List.mergeSort_cons htrans htotal a all
      rw [hall]
      rw [hrest] at ih
      exact ih.trans ((List.sublist_cons_self a back).append_left front)
  | @cons_cons some all a _ ih =>
      obtain ⟨front, back, hall, hrest, hfront⟩ := List.mergeSort_cons htrans htotal a all
      obtain ⟨front', back', hsome, hrest', hfront'⟩ := List.mergeSort_cons htrans htotal a some
      -- what is behind the new item in a sorted list is not before it
      have hbehind : ∀ {front back : List α} {xs : List α}, (a :: xs).mergeSort le = front ++ a :: back →
          ∀ b ∈ back, le a b = true := by
        intro front back xs heq b hb
        have hsorted := List.pairwise_mergeSort htrans htotal (a :: xs)
        rw [heq] at hsorted
        exact (List.pairwise_cons.mp (List.pairwise_append.mp hsorted).2.1).1 b hb
      obtain ⟨hkeep, hdrop⟩ := filter_sorted hfront (hbehind hall)
      obtain ⟨hkeep', hdrop'⟩ := filter_sorted hfront' (hbehind hsome)
      rw [hrest, hrest'] at ih
      have hfronts := ih.filter fun b => !le a b
      have hbacks := ih.filter (le a)
      rw [hkeep, hkeep'] at hfronts
      rw [hdrop, hdrop'] at hbacks
      rw [hall, hsome]
      exact hfronts.append (hbacks.cons_cons a)

/-! ## The passes over releases -/

/-- Of two keys one does not come behind the other. -/
theorem SortField.Key.le_total (a b : SortField.Key) : (a.le b || b.le a) = true := by
  cases a with
  | number i =>
      cases b with
      | number j => simpa [le] using Int.le_total i j
      | text t => rfl
  | text s =>
      cases b with
      | number j => rfl
      | text t => simpa [le] using String.le_total s t

/-- Keys follow on one another in a line. -/
theorem SortField.Key.le_trans {a b c : SortField.Key} (hab : a.le b = true) (hbc : b.le c = true) :
    a.le c = true := by
  cases a <;> cases b <;> cases c <;> simp only [le, decide_eq_true_eq, Bool.false_eq_true] at hab hbc ⊢
  · exact Int.le_trans hab hbc
  · exact String.le_trans hab hbc

namespace Release

/-- One of two releases may stand before the other, in either direction. -/
theorem inOrder_total (field : SortField) (descending : Bool) (a b : Release) :
    (inOrder field descending a b || inOrder field descending b a) = true := by
  cases descending with
  | false => exact SortField.Key.le_total _ _
  | true => exact SortField.Key.le_total _ _

/-- What may stand before a release may stand before those behind it. -/
theorem inOrder_trans (field : SortField) (descending : Bool) (a b c : Release)
    (hab : inOrder field descending a b = true) (hbc : inOrder field descending b c = true) :
    inOrder field descending a c = true := by
  cases descending with
  | false => exact SortField.Key.le_trans hab hbc
  | true => exact SortField.Key.le_trans hbc hab

/-- The order of priorities is a line. -/
theorem priority_trans (a b c : Release) (hab : decide (a.priority ≤ b.priority) = true)
    (hbc : decide (b.priority ≤ c.priority) = true) : decide (a.priority ≤ c.priority) = true := by
  simp only [decide_eq_true_eq] at hab hbc ⊢
  omega

theorem priority_total (a b : Release) :
    (decide (a.priority ≤ b.priority) || decide (b.priority ≤ a.priority)) = true := by
  simp only [Bool.or_eq_true, decide_eq_true_eq]
  omega

/-- The order of the names of indexers is a line. -/
theorem name_trans (a b c : Release) (hab : decide (Text.fold a.indexerName ≤ Text.fold b.indexerName) = true)
    (hbc : decide (Text.fold b.indexerName ≤ Text.fold c.indexerName) = true) :
    decide (Text.fold a.indexerName ≤ Text.fold c.indexerName) = true := by
  simp only [decide_eq_true_eq] at hab hbc ⊢
  exact String.le_trans hab hbc

theorem name_total (a b : Release) :
    (decide (Text.fold a.indexerName ≤ Text.fold b.indexerName) ||
      decide (Text.fold b.indexerName ≤ Text.fold a.indexerName)) = true := by
  simpa using String.le_total (Text.fold a.indexerName) (Text.fold b.indexerName)

/-- **Releases that are left out leave the others in their order.** -/
theorem sorted_sublist (field : SortField) (descending : Bool) {some all : List Release} (h : some.Sublist all) :
    (sorted field descending some).Sublist (sorted field descending all) := by
  have hnamed := mergeSort_sublist name_trans name_total h
  have hfiled := mergeSort_sublist (inOrder_trans field descending) (inOrder_total field descending) hnamed
  exact mergeSort_sublist priority_trans priority_total hfiled

end Release

end MetaSearch
