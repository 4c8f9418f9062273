import MetaSearch.Proofs.Release.Sorted

/-!
# The one order behind three passes

Releases are sorted in three passes, the least important one first.  A pass moves a release past another one only where
its own key says so (`pairwise_mergeSort_of_pairwise`), so that what an earlier pass has settled still counts wherever
a later one finds two releases alike, in either direction of the sort.

`Release.sorted_lexicographic` puts the passes together: the sorted releases stand in one order of four levels,
`Release.Precedes`, whose last level is the place at which a release was found.
-/

namespace MetaSearch

/-- **A stable pass keeps what is settled.**  Behind a pass every two items stand as its order has them, and as they
stood before where its order holds both ways. -/
theorem pairwise_mergeSort_of_pairwise {α : Type} {le : α → α → Bool} {R : α → α → Prop}
    (htrans : ∀ a b c, le a b → le b c → le a c) (htotal : ∀ a b, (le a b || le b a) = true) {xs : List α}
    (h : xs.Pairwise R) : (xs.mergeSort le).Pairwise fun a b => le a b = true ∧ (le b a = true → R a b) := by
  induction xs with
  | nil => simp
  | cons a xs ih =>
      obtain ⟨hfirst, hrest⟩ := List.pairwise_cons.mp h
      obtain ⟨front, back, hall, hothers, hfront⟩ := List.mergeSort_cons htrans htotal a xs
      have hordered := List.pairwise_mergeSort htrans htotal (a :: xs)
      have hmem : ∀ b ∈ front ++ back, b ∈ xs := by
        intro b hb
        rw [← hothers] at hb
        exact List.mem_mergeSort.mp hb
      have hkept := ih hrest
      rw [hothers, List.pairwise_append] at hkept
      obtain ⟨hinFront, hinBack, hacross⟩ := hkept
      rw [hall] at hordered ⊢
      rw [List.pairwise_append, List.pairwise_cons] at hordered ⊢
      refine ⟨hinFront, ⟨?_, hinBack⟩, ?_⟩
      · intro b hb
        exact ⟨hordered.2.1.1 b hb, fun _ => hfirst b (hmem b (List.mem_append_right front hb))⟩
      · intro b hb c hc
        rcases List.mem_cons.mp hc with rfl | hc
        · -- what the pass has moved in front of the first item is strictly before it
          have hstrict : le c b = false := by simpa using hfront b hb
          exact ⟨hordered.2.2 b hb c List.mem_cons_self, fun hle => absurd hle (by simp [hstrict])⟩
        · exact hacross b hb c hc

/-- Of two items that stand in a list one stands before the other. -/
theorem pair_sublist_or {α : Type} {a b : α} {xs : List α} (ha : a ∈ xs) (hb : b ∈ xs) (hne : a ≠ b) :
    [a, b].Sublist xs ∨ [b, a].Sublist xs := by
  induction xs with
  | nil => cases ha
  | cons c xs ih =>
      rcases List.mem_cons.mp ha with rfl | ha'
      · have hb' : b ∈ xs := by simpa [hne.symm] using hb
        exact .inl ((List.singleton_sublist.mpr hb').cons_cons a)
      · rcases List.mem_cons.mp hb with rfl | hb'
        · exact .inr ((List.singleton_sublist.mpr ha').cons_cons b)
        · exact (ih ha' hb').imp (·.cons c) (·.cons c)

/-! ## Keys -/

namespace SortField

/-- Whether one key comes before another: numbers by their size, texts as in a dictionary. -/
def Key.Before : Key → Key → Prop
  | number i, number j => i < j
  | text s, text t => s < t
  | number _, text _ => True
  | text _, number _ => False

theorem Key.before_iff {a b : Key} : a.Before b ↔ a.le b = true ∧ b.le a = false := by
  cases a with
  | number i =>
      cases b with
      | number j =>
          simp only [Before, le, decide_eq_true_eq, decide_eq_false_iff_not]
          omega
      | text t => simp [Before, le]
  | text s =>
      cases b with
      | number j => simp [Before, le]
      | text t =>
          simp only [Before, le, decide_eq_true_eq, decide_eq_false_iff_not, String.not_le]
          exact ⟨fun h => ⟨String.not_lt.mp (String.lt_asymm h), h⟩, fun h => h.2⟩

theorem Key.eq_of_le {a b : Key} (hab : a.le b = true) (hba : b.le a = true) : a = b := by
  cases a <;> cases b <;> simp only [le, decide_eq_true_eq, Bool.false_eq_true] at hab hba
  · rw [Int.le_antisymm hab hba]
  · rw [String.le_antisymm hab hba]

/-- Whether the property of one release comes before that of another in a direction. -/
def Leads (field : SortField) (descending : Bool) (a b : Release) : Prop :=
  if descending then (field.key b).Before (field.key a) else (field.key a).Before (field.key b)

end SortField

namespace Release

/-- **The order of releases.**  The smaller priority comes first; where priorities are equal, the property decides in
the direction that is asked for; where that is equal too, the name of the indexer that comes first in a dictionary,
whatever the direction; and where names are equal, the place at which the releases were found. -/
def Precedes (field : SortField) (descending : Bool) (a b : Release × Nat) : Prop :=
  a.1.priority < b.1.priority ∨
    a.1.priority = b.1.priority ∧
      (field.Leads descending a.1 b.1 ∨
        field.key a.1 = field.key b.1 ∧
          (Text.fold a.1.indexerName < Text.fold b.1.indexerName ∨
            Text.fold a.1.indexerName = Text.fold b.1.indexerName ∧ a.2 < b.2))

variable {field : SortField} {descending : Bool}

theorem leads_iff {a b : Release} :
    field.Leads descending a b ↔ inOrder field descending a b = true ∧ inOrder field descending b a = false := by
  cases descending with
  | false => exact SortField.Key.before_iff
  | true => exact SortField.Key.before_iff

theorem key_eq_of_inOrder {a b : Release} (hab : inOrder field descending a b = true)
    (hba : inOrder field descending b a = true) : field.key a = field.key b := by
  cases descending with
  | false => exact SortField.Key.eq_of_le hab hba
  | true => exact SortField.Key.eq_of_le hba hab

theorem not_leads_of_leads {a b : Release} (h : field.Leads descending a b) : ¬ field.Leads descending b a := by
  intro hback
  have hab := (leads_iff.mp h).1
  rw [(leads_iff.mp hback).2] at hab
  cases hab

theorem key_ne_of_leads {a b : Release} (h : field.Leads descending a b) : field.key a ≠ field.key b := by
  intro heq
  obtain ⟨hab, hba⟩ := leads_iff.mp h
  simp only [inOrder, heq] at hab hba
  rw [hab] at hba
  cases hba

/-- Of two releases at most one precedes the other. -/
theorem Precedes.asymm {a b : Release × Nat} (hab : Precedes field descending a b) :
    ¬ Precedes field descending b a := by
  rcases hab with hpriority | ⟨hpriority, hab⟩
  · rintro (hback | ⟨hback, -⟩) <;> omega
  · rcases hab with hleads | ⟨hkey, hab⟩
    · rintro (hback | ⟨-, hback | ⟨hback, -⟩⟩)
      · omega
      · exact not_leads_of_leads hleads hback
      · exact key_ne_of_leads hleads hback.symm
    · rintro (hback | ⟨-, hback | ⟨-, hback⟩⟩)
      · omega
      · exact key_ne_of_leads hback hkey.symm
      · rcases hab with hname | ⟨hname, hplace⟩
        · rcases hback with hback | ⟨hback, -⟩
          · exact String.lt_asymm hname hback
          · exact String.lt_irrefl _ (hback ▸ hname)
        · rcases hback with hback | ⟨-, hback⟩
          · exact String.lt_irrefl _ (hname ▸ hback)
          · omega

/-! ## Releases with their places -/

/-- A pass over releases that takes the place of each along. -/
def passWithPlaces (le : Release → Release → Bool) (xs : List (Release × Nat)) : List (Release × Nat) :=
  xs.mergeSort fun a b => le a.1 b.1

theorem map_passWithPlaces (le : Release → Release → Bool) (xs : List (Release × Nat)) :
    (passWithPlaces le xs).map Prod.fst = (xs.map Prod.fst).mergeSort le :=
  List.map_mergeSort fun _ _ _ _ => rfl

theorem pairwise_passWithPlaces {le : Release → Release → Bool} {R : Release × Nat → Release × Nat → Prop}
    (htrans : ∀ a b c, le a b → le b c → le a c) (htotal : ∀ a b, (le a b || le b a) = true)
    {xs : List (Release × Nat)} (h : xs.Pairwise R) :
    (passWithPlaces le xs).Pairwise fun a b => le a.1 b.1 = true ∧ (le b.1 a.1 = true → R a b) :=
  pairwise_mergeSort_of_pairwise (fun a b c => htrans a.1 b.1 c.1) (fun a b => htotal a.1 b.1) h

/-- The three passes over releases that take their places along. -/
def sortedWithPlaces (field : SortField) (descending : Bool) (releases : List Release) : List (Release × Nat) :=
  let byName := passWithPlaces (fun a b => Text.fold a.indexerName ≤ Text.fold b.indexerName) releases.zipIdx
  let byField := passWithPlaces (inOrder field descending) byName
  passWithPlaces (fun a b => a.priority ≤ b.priority) byField

variable (field descending) in
theorem map_sortedWithPlaces (releases : List Release) :
    (sortedWithPlaces field descending releases).map Prod.fst = sorted field descending releases := by
  simp only [sortedWithPlaces, sorted, map_passWithPlaces, List.zipIdx_map_fst]

variable (field descending) in
theorem sortedWithPlaces_perm (releases : List Release) :
    (sortedWithPlaces field descending releases).Perm releases.zipIdx :=
  ((List.mergeSort_perm _ _).trans (List.mergeSort_perm _ _)).trans (List.mergeSort_perm _ _)

/-- **Each pass settles one level of the order**, and the places settle the last one. -/
theorem pairwise_sortedWithPlaces (releases : List Release) :
    (sortedWithPlaces field descending releases).Pairwise (Precedes field descending) := by
  have hplaces : releases.zipIdx.Pairwise fun a b => a.2 < b.2 := by
    rw [← List.pairwise_map, List.zipIdx_map_snd]
    exact List.pairwise_lt_range' 1
  have hnamed := pairwise_passWithPlaces name_trans name_total hplaces
  have hfiled := pairwise_passWithPlaces (inOrder_trans field descending) (inOrder_total field descending) hnamed
  refine (pairwise_passWithPlaces priority_trans priority_total hfiled).imp fun {a b} h => ?_
  simp only [decide_eq_true_eq] at h
  obtain ⟨hpriority, hrest⟩ := h
  rcases Int.lt_or_eq_of_le hpriority with hlt | heq
  · exact .inl hlt
  · obtain ⟨hkey, hrest⟩ := hrest (Int.le_of_eq heq.symm)
    refine .inr ⟨heq, ?_⟩
    cases hback : inOrder field descending b.1 a.1 with
    | false => exact .inl (leads_iff.mpr ⟨hkey, hback⟩)
    | true =>
        obtain ⟨hname, hplace⟩ := hrest hback
        refine .inr ⟨key_eq_of_inOrder hkey hback, ?_⟩
        by_cases hnames : Text.fold b.1.indexerName ≤ Text.fold a.1.indexerName
        · exact .inr ⟨String.le_antisymm hname hnames, hplace hnames⟩
        · exact .inl (String.not_le.mp hnames)

/-- **Sorted releases stand in one order.**  Sorting moves the releases to other places and does nothing else: `placed`
holds each of them once, with the place at which it was found.  Of any two releases that one stands before the other
which precedes it, by its priority, then by the property in the direction that is asked for, then by the name of its
indexer, and then by its place. -/
theorem sorted_lexicographic (field : SortField) (descending : Bool) (releases : List Release) :
    ∃ placed : List (Release × Nat), placed.Perm releases.zipIdx ∧
      placed.map Prod.fst = sorted field descending releases ∧
      ∀ a ∈ placed, ∀ b ∈ placed, ([a, b].Sublist placed ↔ Precedes field descending a b) := by
  have hordered : (sortedWithPlaces field descending releases).Pairwise (Precedes field descending) :=
    pairwise_sortedWithPlaces releases
  refine ⟨sortedWithPlaces field descending releases, sortedWithPlaces_perm field descending releases,
    map_sortedWithPlaces field descending releases, fun a ha b hb => ?_⟩
  constructor
  · intro hstands
    exact List.pairwise_iff_forall_sublist.mp hordered hstands
  · intro hab
    have hne : a ≠ b := fun heq => hab.asymm (heq ▸ hab)
    refine (pair_sublist_or ha hb hne).resolve_right fun hback => ?_
    exact hab.asymm (List.pairwise_iff_forall_sublist.mp hordered hback)

end Release

end MetaSearch
