import MetaSearch.Extract.Page
import MetaSearch.Proofs.Markup.Tree
import Mathlib.Algebra.Order.Floor.Div

/-!
# Rows that go on in the rows after them

Where rows go on, the rows of a page fall into groups, a row that is kept and those that are merged into it (`groups`).
`mergeFollowing_group` says that merging goes group by group, and `Apart.children_absorb` what a single merging changes:
as long as no row stands in another, the children of two rows and nothing else of the other rows.

The main result is `mergeFollowing_matched`: of the rows that are found in a page of hypertext those at the right places
are kept, with the children of all of them, none lost, none twice, and in the order of the page.
-/

namespace MetaSearch

namespace Markup.Page

/-! ## Moving parts about -/

@[simp] theorem size_detach (page : Page) (id : Nat) : (page.detach id).parts.size = page.parts.size := by
  unfold detach
  split <;> simp

/-- A part that is taken out is no longer among the children of what it lay in. -/
theorem children_detach (page : Page) (id x : Nat) : (page.detach id).children x =
    if page.parent? id = some x then (page.children x).filter (· != id) else page.children x := by
  unfold detach
  cases hparent : page.parent? id with
  | none => simp
  | some p =>
      by_cases hx : x < page.parts.size
      · by_cases hp : p = x
        · subst hp
          by_cases hid : id = p <;> simp [children, part_modify, hx, hid]
        · by_cases hid : id = x <;> simp [children, part_modify, hx, hid, hp]
      · simp [children, part_modify, hx, part_of_size_le (Nat.le_of_not_lt hx)]

/-- A part that is taken out lies in none, and nothing else moves. -/
theorem parent?_detach (page : Page) (id x : Nat) :
    (page.detach id).parent? x = if x = id then none else page.parent? x := by
  unfold detach
  cases hparent : page.parent? id with
  | none =>
      by_cases hid : x = id
      · simp [hid, hparent]
      · simp [hid]
  | some p =>
      have hsize := lt_size_of_parent? hparent
      by_cases hid : x = id
      · subst hid
        simp [parent?, part_modify, hsize]
      · by_cases hp : p = x ∧ x < page.parts.size <;> simp [parent?, part_modify, Ne.symm hid, hid, hp]

/-- The parts with some of them put into another. -/
def adopt (target : Nat) (moved : List Nat) (parts : Array Part) : Array Part :=
  moved.foldl (fun parts id => parts.modify id fun p => { p with parent := some target }) parts

@[simp] theorem size_adopt (target : Nat) (moved : List Nat) (parts : Array Part) :
    (adopt target moved parts).size = parts.size := by
  unfold adopt
  induction moved generalizing parts with
  | nil => rfl
  | cons id moved ih => simp [ih]

theorem part_adopt (target : Nat) (moved : List Nat) (parts : Array Part) (x : Nat) :
    part ⟨adopt target moved parts⟩ x =
      if x ∈ moved ∧ x < parts.size then { part ⟨parts⟩ x with parent := some target } else part ⟨parts⟩ x := by
  unfold adopt
  induction moved generalizing parts with
  | nil => simp
  | cons id moved ih =>
      rw [List.foldl_cons, ih, part_modify, Array.size_modify]
      by_cases hid : id = x
      · subst hid
        by_cases hsize : id < parts.size <;> simp [hsize]
      · have hx : x ≠ id := fun h => hid h.symm
        simp [hid, hx]

@[simp] theorem size_absorb (page : Page) (target source : Nat) :
    (page.absorb target source).parts.size = page.parts.size := by
  have hsize := size_adopt target (page.children source) page.parts
  rw [adopt] at hsize
  simp [absorb, hsize]

/-- The page when the children of `source` are in `target` and `source` is still where it was. -/
def poured (page : Page) (target source : Nat) : Page :=
  ⟨((adopt target (page.children source) page.parts).modify source fun p => { p with children := [] }).modify target
    fun p => { p with children := p.children ++ page.children source }⟩

theorem absorb_eq (page : Page) (target source : Nat) :
    page.absorb target source = (page.poured target source).detach source :=
  rfl

theorem children_poured {page : Page} {target source : Nat} (htarget : target < page.parts.size)
    (hne : target ≠ source) (x : Nat) : (page.poured target source).children x =
      if x = target then page.children target ++ page.children source
      else if x = source then [] else page.children x := by
  -- the parts that are moved keep the children they have
  have hkeep : ∀ y, (part ⟨adopt target (page.children source) page.parts⟩ y).children = page.children y := by
    intro y
    rw [part_adopt]
    split <;> rfl
  rw [poured, children, part_modify, part_modify, Array.size_modify, size_adopt]
  by_cases hx : x < page.parts.size
  · by_cases hxt : x = target
    · subst hxt
      simp [hx, Ne.symm hne, hkeep]
    · by_cases hxs : x = source
      · subst hxs
        simp [hx, hne, hxt]
      · simp [Ne.symm hxt, Ne.symm hxs, hxt, hxs, hkeep]
  · have hxt : x ≠ target := fun h => hx (h ▸ htarget)
    have hnone : page.children x = [] := by rw [children, part_of_size_le (Nat.le_of_not_lt hx)]
    simp [hx, hxt, hkeep, hnone]

theorem parent?_poured (page : Page) (target source : Nat) {x : Nat} (hx : x ∉ page.children source) :
    (page.poured target source).parent? x = page.parent? x := by
  rw [poured, parent?, part_modify, part_modify]
  have hkeep : part ⟨adopt target (page.children source) page.parts⟩ x = page.part x := by
    rw [part_adopt, if_neg fun h => hx h.1]
  rw [hkeep]
  split <;> split <;> rfl

end Markup.Page

namespace Extract

open Markup

/-! ## Rows that stand apart -/

/-- Rows of a page none of which lies right in another. -/
structure Apart (page : Page) (rows : List Nat) : Prop where
  inside : ∀ row ∈ rows, row < page.parts.size
  parent : ∀ row ∈ rows, ∀ p, page.parent? row = some p → p ∉ rows
  child : ∀ row ∈ rows, ∀ c ∈ page.children row, c ∉ rows

namespace Apart

variable {page : Page} {rows : List Nat} {target source : Nat}

/-- **What one merging changes** in the rows of a page: the children of the two that are merged. -/
theorem children_absorb (h : Apart page rows) (htarget : target ∈ rows) (hsource : source ∈ rows)
    (hne : target ≠ source) {x : Nat} (hx : x ∈ rows) : (page.absorb target source).children x =
      if x = target then page.children target ++ page.children source
      else if x = source then [] else page.children x := by
  have hself : source ∉ page.children source := fun hmem => h.child source hsource source hmem hsource
  rw [Page.absorb_eq, Page.children_detach, Page.parent?_poured page target source hself,
    if_neg fun hparent => h.parent source hsource x hparent hx, Page.children_poured (h.inside target htarget) hne]

theorem parent?_absorb (h : Apart page rows) (hsource : source ∈ rows) {x : Nat} (hx : x ∈ rows) :
    (page.absorb target source).parent? x = if x = source then none else page.parent? x := by
  rw [Page.absorb_eq, Page.parent?_detach,
    Page.parent?_poured page target source fun hmem => h.child source hsource x hmem hx]

/-- Merging leaves the rows apart. -/
theorem absorb (h : Apart page rows) (htarget : target ∈ rows) (hsource : source ∈ rows) (hne : target ≠ source) :
    Apart (page.absorb target source) rows where
  inside row hrow := by
    rw [Page.size_absorb]
    exact h.inside row hrow
  parent row hrow p hparent := by
    rw [h.parent?_absorb hsource hrow] at hparent
    split at hparent
    · cases hparent
    · exact h.parent row hrow p hparent
  child row hrow c hc := by
    rw [h.children_absorb htarget hsource hne hrow] at hc
    split at hc
    · rcases List.mem_append.mp hc with hc | hc
      · exact h.child target htarget c hc
      · exact h.child source hsource c hc
    · split at hc
      · cases hc
      · exact h.child row hrow c hc

/-- What merging several rows into one changes in the rows of a page. -/
theorem foldl_absorb (h : Apart page rows) (htarget : target ∈ rows) {sources : List Nat}
    (hsources : ∀ source ∈ sources, source ∈ rows) (hnodup : (target :: sources).Nodup) :
    Apart (sources.foldl (fun page source => page.absorb target source) page) rows ∧
      (sources.foldl (fun page source => page.absorb target source) page).children target =
        page.children target ++ sources.flatMap page.children ∧
      ∀ x ∈ rows, x ∉ target :: sources →
        (sources.foldl (fun page source => page.absorb target source) page).children x = page.children x := by
  induction sources generalizing page with
  | nil => exact ⟨h, by simp, fun _ _ _ => rfl⟩
  | cons source sources ih =>
      obtain ⟨hsource, hrest⟩ := List.forall_mem_cons.mp hsources
      obtain ⟨hnotin, hnodup'⟩ := List.nodup_cons.mp hnodup
      obtain ⟨hne, hnotin'⟩ := not_or.mp (mt List.mem_cons.mpr hnotin)
      obtain ⟨hsourcenot, hnodup''⟩ := List.nodup_cons.mp hnodup'
      have hmerged : ∀ {x : Nat}, x ∈ rows → (page.absorb target source).children x =
          if x = target then page.children target ++ page.children source
          else if x = source then [] else page.children x := fun hx => h.children_absorb htarget hsource hne hx
      obtain ⟨hapart, hown, hothers⟩ :=
        ih (h.absorb htarget hsource hne) hrest (List.nodup_cons.mpr ⟨hnotin', hnodup''⟩)
      -- the rows that are still to be merged have the children they had
      have hlater : sources.flatMap (page.absorb target source).children = sources.flatMap page.children := by
        refine List.flatMap_congr fun x hx => ?_
        have hxt : x ≠ target := fun heq => hnotin' (heq ▸ hx)
        have hxs : x ≠ source := fun heq => hsourcenot (heq ▸ hx)
        rw [hmerged (hrest x hx), if_neg hxt, if_neg hxs]
      refine ⟨hapart, ?_, fun x hx hnot => ?_⟩
      · rw [List.foldl_cons, hown, hlater, hmerged htarget, if_pos rfl, List.flatMap_cons, List.append_assoc]
      · simp only [List.mem_cons, not_or] at hnot
        obtain ⟨hxt, hxs, hxrest⟩ := hnot
        rw [List.foldl_cons, hothers x hx (by simp [hxt, hxrest]), hmerged hx, if_neg hxt, if_neg hxs]

end Apart

/-! ## Groups -/

/-- The rows in groups: each that is kept, with the next `after` ones, which are merged into it. -/
def groups (after : Nat) : List Nat → List (Nat × List Nat)
  | [] => []
  | row :: rows => (row, rows.take after) :: groups after (rows.drop after)
termination_by rows => rows.length

variable {after : Nat}

@[simp] theorem groups_nil (after : Nat) : groups after [] = [] := by
  rw [groups]

theorem groups_cons (after row : Nat) (rows : List Nat) :
    groups after (row :: rows) = (row, rows.take after) :: groups after (rows.drop after) := by
  rw [groups]

/-- Every row is in one group, in its place. -/
theorem flatMap_groups (after : Nat) (rows : List Nat) :
    (groups after rows).flatMap (fun group => group.1 :: group.2) = rows := by
  fun_induction groups after rows with
  | case1 => rfl
  | case2 row rows ih => rw [List.flatMap_cons, ih, List.cons_append, List.take_append_drop]

/-- Where a group begins, and which rows are in it. -/
theorem getElem?_groups (after : Nat) (rows : List Nat) (i : Nat) :
    (groups after rows)[i]? =
      rows[i * (after + 1)]?.map fun row => (row, (rows.drop (i * (after + 1) + 1)).take after) := by
  induction i generalizing rows with
  | zero =>
      cases rows with
      | nil => simp
      | cons row rows => simp [groups_cons]
  | succ i ih =>
      cases rows with
      | nil => simp
      | cons row rows =>
          have hplace : (i + 1) * (after + 1) = after + i * (after + 1) + 1 := by rw [Nat.succ_mul]; omega
          rw [groups_cons, List.getElem?_cons_succ, ih, List.getElem?_drop, List.drop_drop, hplace,
            List.getElem?_cons_succ, List.drop_succ_cons, Nat.add_assoc]

/-- There is one group for each `after + 1` rows, and one for what is left. -/
theorem length_groups (after : Nat) (rows : List Nat) : (groups after rows).length = rows.length ⌈/⌉ (after + 1) := by
  rw [Nat.ceilDiv_eq_add_pred_div, Nat.add_sub_assoc (Nat.le_add_left 1 after), Nat.add_sub_cancel]
  fun_induction groups after rows with
  | case1 => simp [Nat.div_eq_of_lt]
  | case2 row rows ih =>
      rw [List.length_cons, ih, List.length_drop, List.length_cons]
      by_cases hlen : after ≤ rows.length
      · have hsum : rows.length + 1 + after = rows.length - after + after + (after + 1) := by omega
        rw [hsum, Nat.add_div_right _ (by omega)]
      · have hnone : rows.length - after + after = after := by omega
        have hone : rows.length + 1 + after = rows.length + (after + 1) := by omega
        rw [hnone, hone, Nat.add_div_right _ (by omega), Nat.div_eq_of_lt (by omega), Nat.div_eq_of_lt (by omega)]

/-- Merging takes rows into the last one that was kept until enough of them are merged. -/
theorem mergeFollowing_waiting (page : Page) (last : Nat) (kept : List Nat) (waiting : Nat) (rows : List Nat) :
    mergeFollowing after page (last :: kept) waiting rows =
      mergeFollowing after ((rows.take waiting).foldl (fun page row => page.absorb last row) page) (last :: kept) 0
        (rows.drop waiting) := by
  induction waiting generalizing page rows with
  | zero => rfl
  | succ waiting ih =>
      cases rows with
      | nil => rfl
      | cons row rows =>
          rw [mergeFollowing, ih]
          rfl

/-- **Merging goes group by group.** -/
theorem mergeFollowing_group (page : Page) (kept : List Nat) (row : Nat) (rows : List Nat) :
    mergeFollowing after page kept 0 (row :: rows) =
      mergeFollowing after ((rows.take after).foldl (fun page source => page.absorb row source) page) (row :: kept) 0
        (rows.drop after) := by
  rw [mergeFollowing.eq_def]
  exact mergeFollowing_waiting _ _ _ _ _

/-- What merging rows that stand apart comes to: the first row of every group is kept, with the children of the whole
group, and rows that are not among those merged have the children they had. -/
theorem Apart.mergeFollowing {page : Page} {all rows : List Nat} (h : Apart page all) (hrows : ∀ row ∈ rows, row ∈ all)
    (hnodup : rows.Nodup) (after : Nat) (kept : List Nat) :
    (mergeFollowing after page kept 0 rows).2 = kept.reverse ++ (groups after rows).map Prod.fst ∧
      (∀ group ∈ groups after rows, (mergeFollowing after page kept 0 rows).1.children group.1 =
        page.children group.1 ++ group.2.flatMap page.children) ∧
      ∀ x ∈ all, x ∉ rows → (mergeFollowing after page kept 0 rows).1.children x = page.children x := by
  fun_induction groups after rows generalizing page kept with
  | case1 => simp [Extract.mergeFollowing]
  | case2 row rows ih =>
      obtain ⟨hrow, hrest⟩ := List.forall_mem_cons.mp hrows
      obtain ⟨hnotin, hnodup'⟩ := List.nodup_cons.mp hnodup
      have htake : ∀ source ∈ rows.take after, source ∈ all := fun source hmem =>
        hrest source (List.mem_of_mem_take hmem)
      have hdrop : ∀ source ∈ rows.drop after, source ∈ all := fun source hmem =>
        hrest source (List.mem_of_mem_drop hmem)
      have hfirst : (row :: rows.take after).Nodup :=
        List.nodup_cons.mpr ⟨fun hmem => hnotin (List.mem_of_mem_take hmem), hnodup'.sublist (List.take_sublist _ _)⟩
      have hlater : ∀ x ∈ rows.drop after, x ∉ row :: rows.take after := fun x hx hmem =>
        List.disjoint_take_drop (m := after + 1) hnodup le_rfl hmem hx
      obtain ⟨hapart, hown, hothers⟩ := h.foldl_absorb hrow htake hfirst
      rw [mergeFollowing_group]
      obtain ⟨hkept, hgroups, hrestsame⟩ :=
        ih hapart hdrop (hnodup'.sublist (List.drop_sublist _ _)) (row :: kept)
      refine ⟨?_, ?_, ?_⟩
      · rw [hkept, List.reverse_cons, List.append_assoc]
        rfl
      · rw [List.forall_mem_cons]
        refine ⟨?_, fun group hgroup => ?_⟩
        · have hgone : row ∉ rows.drop after := fun hmem => hnotin (List.mem_of_mem_drop hmem)
          rw [hrestsame row hrow hgone, hown]
        · -- the rows of a later group were not touched by the first one
          have hmem : ∀ x ∈ group.1 :: group.2, x ∈ rows.drop after := by
            intro x hx
            rw [← flatMap_groups after (rows.drop after)]
            exact List.mem_flatMap.mpr ⟨group, hgroup, hx⟩
          have hsame : ∀ x ∈ group.1 :: group.2,
              ((rows.take after).foldl (fun page source => page.absorb row source) page).children x = page.children x :=
            fun x hx => hothers x (hdrop x (hmem x hx)) (hlater x (hmem x hx))
          obtain ⟨hsamefirst, hsamerest⟩ := List.forall_mem_cons.mp hsame
          rw [hgroups group hgroup, hsamefirst, List.flatMap_congr hsamerest]
      · intro x hx hnot
        obtain ⟨hxrow, hxrows⟩ := not_or.mp (mt List.mem_cons.mpr hnot)
        rw [hrestsame x hx fun hmem => hxrows (List.mem_of_mem_drop hmem)]
        refine hothers x hx fun hmem => ?_
        rcases List.mem_cons.mp hmem with heq | hmem
        · exact hxrow heq
        · exact hxrows (List.mem_of_mem_take hmem)

/-- Rows of which none contains another stand apart. -/
theorem apart_of_isTree {page : Page} (h : page.IsTree) {rows : List Nat} (hrows : rows.Sublist (page.descendants 0))
    (hcontains : ∀ a ∈ rows, ∀ b ∈ rows, b ∉ page.descendants a) : Apart page rows where
  inside _ hrow := h.lt_size_of_mem_descendants (hrows.subset hrow)
  parent row hrow p hparent hp :=
    hcontains p hp row hrow (Page.IsTree.mem_descendants_of_child (h.child_of_parent hparent))
  child row hrow c hc hcrow := hcontains row hrow c hcrow (Page.IsTree.mem_descendants_of_child hc)

/-- **Merging rows loses nothing and takes nothing twice.**  Of the rows that are found in hypertext, in its order and
none in another, every `after + 1`st is kept, from the first one on.  Its children are its own ones, then those of the
next `after` rows, as far as there are so many; all children of the rows are left, in the order of the page. -/
theorem mergeFollowing_matched (text : String) (after : Nat) (rows : List Nat)
    (hrows : rows.Sublist ((Page.ofHypertext text).descendants 0))
    (hcontains : ∀ a ∈ rows, ∀ b ∈ rows, b ∉ (Page.ofHypertext text).descendants a) :
    let page := Page.ofHypertext text
    let merged := (mergeFollowing after page [] 0 rows).1
    let kept := (mergeFollowing after page [] 0 rows).2
    kept.length = rows.length ⌈/⌉ (after + 1) ∧
      (∀ i : Nat, kept[i]? = rows[i * (after + 1)]?) ∧
      (∀ (i row : Nat), kept[i]? = some row → merged.children row =
        page.children row ++ ((rows.drop (i * (after + 1) + 1)).take after).flatMap page.children) ∧
      kept.flatMap merged.children = rows.flatMap page.children := by
  intro page merged kept
  have htree : page.IsTree := Page.isTree_ofHypertext text
  have hnodup : rows.Nodup := (htree.nodup_descendants 0).sublist hrows
  obtain ⟨hkept, hgroups, -⟩ :=
    (apart_of_isTree htree hrows hcontains).mergeFollowing (fun _ h => h) hnodup after []
  change kept = [] ++ (groups after rows).map Prod.fst at hkept
  rw [List.nil_append] at hkept
  refine ⟨?_, fun i => ?_, fun i row hrow => ?_, ?_⟩
  · rw [hkept, List.length_map, length_groups]
  · rw [hkept, List.getElem?_map, getElem?_groups, Option.map_map]
    exact Option.map_id'
  · rw [hkept, List.getElem?_map, Option.map_eq_some_iff] at hrow
    obtain ⟨group, hgroup, rfl⟩ := hrow
    have hown := hgroups group (List.mem_of_getElem? hgroup)
    rw [getElem?_groups, Option.map_eq_some_iff] at hgroup
    obtain ⟨row, -, rfl⟩ := hgroup
    exact hown
  · rw [hkept, List.flatMap_map, List.flatMap_congr hgroups]
    conv_rhs => rw [← flatMap_groups after rows, List.flatMap_assoc]
    rfl

/-- Five paragraphs of which every other one is merged into the one before it. -/
theorem mergeFollowing_matched_paragraphs :
    let page := Page.ofHypertext "<p>a<b>x</b></p><p>b</p><p>c</p><p>d</p><p>e</p>"
    let rows := [3, 7, 9, 11, 13]
    let merged := (mergeFollowing 1 page [] 0 rows).1
    (Selector.read? "p").map (Selector.select page 0) = some rows ∧
      rows.Sublist (page.descendants 0) ∧
      (∀ a ∈ rows, ∀ b ∈ rows, b ∉ page.descendants a) ∧
      (mergeFollowing 1 page [] 0 rows).2 = [3, 9, 13] ∧
      merged.children 3 = [4, 5, 8] ∧
      [3, 9, 13].flatMap merged.children = rows.flatMap page.children := by
  intro page rows merged
  have hrows : rows.Sublist (page.descendants 0) := by decide +kernel
  have hcontains : ∀ a ∈ rows, ∀ b ∈ rows, b ∉ page.descendants a := by decide +kernel
  have hkept : (mergeFollowing 1 page [] 0 rows).2 = [3, 9, 13] := by decide +kernel
  obtain ⟨-, -, hchildren, hall⟩ := mergeFollowing_matched _ 1 rows hrows hcontains
  refine ⟨by decide +kernel, hrows, hcontains, hkept, ?_, ?_⟩
  · rw [hchildren 0 3 (by rw [hkept]; rfl)]
    decide +kernel
  · rwa [hkept] at hall

end Extract

end MetaSearch
