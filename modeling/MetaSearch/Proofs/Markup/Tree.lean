import MetaSearch.Markup.Page
import Mathlib.Data.List.Nodup
import Mathlib.Order.Nat
import Mathlib.Logic.Relation

/-!
# Pages are trees

A page is made from a tree, part after part, in the order in which the parts begin, so that every part has a greater
number than the one it lies in.  `Grown` is what adding nodes keeps while the part around them is still without its
children, and `isTree_ofHypertext` what comes of it: the numbers of children and of the parts they lie in agree.

In a tree no part is found twice in the order of the page (`IsTree.nodup_descendants`).
-/

namespace MetaSearch.Markup.Page

/-! ## Parts by number -/

theorem part_eq (page : Page) (id : Nat) : page.part id = (page.parts[id]?).getD { content := .remark } :=
  Array.getD_eq_getD_getElem? ..

/-- Nothing lies under a number that no part has. -/
theorem part_of_size_le {page : Page} {id : Nat} (h : page.parts.size ≤ id) :
    page.part id = { content := .remark } := by
  rw [part_eq, Array.getElem?_eq_none h, Option.getD_none]

theorem part_push (parts : Array Part) (p : Part) (id : Nat) :
    part ⟨parts.push p⟩ id = if id = parts.size then p else part ⟨parts⟩ id := by
  rw [part_eq, part_eq, Array.getElem?_push]
  split <;> rfl

theorem part_modify (parts : Array Part) (place : Nat) (f : Part → Part) (id : Nat) :
    part ⟨parts.modify place f⟩ id =
      if place = id ∧ id < parts.size then f (part ⟨parts⟩ id) else part ⟨parts⟩ id := by
  rw [part_eq, part_eq, Array.getElem?_modify]
  by_cases hid : id < parts.size
  · by_cases hplace : place = id <;> simp [hplace, hid]
  · simp [hid]

section GiveChildren

variable {parts : Array Part} {place : Nat} {ids : List Nat} {id : Nat}

/-- A part that is given its children stays in the part that it lies in, and so do all others. -/
theorem parent?_giveChildren :
    parent? ⟨parts.modify place fun p => { p with children := ids }⟩ id = parent? ⟨parts⟩ id := by
  rw [parent?, part_modify, parent?]
  split <;> rfl

/-- Only the part that is given children has others than before. -/
theorem children_giveChildren (h : place < parts.size) :
    children ⟨parts.modify place fun p => { p with children := ids }⟩ id =
      if id = place then ids else children ⟨parts⟩ id := by
  rw [children, part_modify, children]
  by_cases hid : id = place
  · rw [if_pos ⟨hid.symm, hid ▸ h⟩, if_pos hid]
  · rw [if_neg fun hboth => hid hboth.1.symm, if_neg hid]

end GiveChildren

/-- A part that has children is there. -/
theorem lt_size_of_child {page : Page} {id child : Nat} (h : child ∈ page.children id) : id < page.parts.size := by
  by_contra hid
  simp [children, part_of_size_le (Nat.le_of_not_lt hid)] at h

/-- A part that lies in another is there. -/
theorem lt_size_of_parent? {page : Page} {id p : Nat} (h : page.parent? id = some p) : id < page.parts.size := by
  by_contra hid
  simp [parent?, part_of_size_le (Nat.le_of_not_lt hid)] at h

/-! ## Adding nodes -/

/-- Parts to which others were added inside the part `parent`.  Those that were there before stay as they are, `ids` are
the new ones that lie in `parent` itself, and every other new one lies in a new one. -/
structure Grown (parent : Nat) (before after : Array Part) (ids : List Nat) : Prop where
  size_le : before.size ≤ after.size
  part_eq : ∀ id < before.size, part ⟨after⟩ id = part ⟨before⟩ id
  own : ∀ id ∈ ids, before.size ≤ id ∧ id < after.size ∧ parent? ⟨after⟩ id = some parent
  sorted : ids.Pairwise (· < ·)
  inner : ∀ id, before.size ≤ id → id < after.size →
    id ∈ ids ∨ ∃ p, before.size ≤ p ∧ parent? ⟨after⟩ id = some p ∧ id ∈ children ⟨after⟩ p
  ordered : ∀ id, before.size ≤ id → (children ⟨after⟩ id).Pairwise (· < ·)
  below : ∀ id, before.size ≤ id → ∀ child ∈ children ⟨after⟩ id,
    id < child ∧ child < after.size ∧ parent? ⟨after⟩ child = some id

namespace Grown

variable {parent : Nat} {before between after : Array Part} {ids more : List Nat}

theorem nil (parent : Nat) (parts : Array Part) : Grown parent parts parts [] where
  size_le := Nat.le_refl _
  part_eq _ _ := rfl
  own := by simp
  sorted := List.Pairwise.nil
  inner _ hle hlt := absurd hlt (Nat.not_lt_of_le hle)
  ordered id hid := by simp [children, part_of_size_le hid]
  below id hid := by simp [children, part_of_size_le hid]

/-- What was added first is not touched by what is added later. -/
theorem append (h : Grown parent before between ids) (h' : Grown parent between after more) :
    Grown parent before after (ids ++ more) where
  size_le := h.size_le.trans h'.size_le
  part_eq id hid := (h'.part_eq id (hid.trans_le h.size_le)).trans (h.part_eq id hid)
  own id hid := by
    rcases List.mem_append.mp hid with hid | hid
    · obtain ⟨hle, hlt, hparent⟩ := h.own id hid
      refine ⟨hle, hlt.trans_le h'.size_le, ?_⟩
      rw [parent?, h'.part_eq id hlt]
      exact hparent
    · obtain ⟨hle, hlt, hparent⟩ := h'.own id hid
      exact ⟨h.size_le.trans hle, hlt, hparent⟩
  sorted := by
    refine List.pairwise_append.mpr ⟨h.sorted, h'.sorted, fun a ha b hb => ?_⟩
    exact (h.own a ha).2.1.trans_le (h'.own b hb).1
  inner id hle hlt := by
    by_cases hid : id < between.size
    · rcases h.inner id hle hid with hown | ⟨p, hp, hparent, hchild⟩
      · exact .inl (List.mem_append_left more hown)
      · refine .inr ⟨p, hp, ?_, ?_⟩
        · rw [parent?, h'.part_eq id hid]
          exact hparent
        · rw [Page.children, h'.part_eq p (lt_size_of_child hchild)]
          exact hchild
    · rcases h'.inner id (Nat.le_of_not_lt hid) hlt with hown | ⟨p, hp, hinner⟩
      · exact .inl (List.mem_append_right ids hown)
      · exact .inr ⟨p, h.size_le.trans hp, hinner⟩
  ordered id hle := by
    by_cases hid : id < between.size
    · rw [Page.children, h'.part_eq id hid]
      exact h.ordered id hle
    · exact h'.ordered id (Nat.le_of_not_lt hid)
  below id hle child hchild := by
    by_cases hid : id < between.size
    · rw [Page.children, h'.part_eq id hid] at hchild
      obtain ⟨hlt, hsize, hparent⟩ := h.below id hle child hchild
      refine ⟨hlt, hsize.trans_le h'.size_le, ?_⟩
      rw [parent?, h'.part_eq child hsize]
      exact hparent
    · exact h'.below id (Nat.le_of_not_lt hid) child hchild

/-- A part is put around what was added inside of it. -/
theorem enclose {content : Content}
    (h : Grown before.size (before.push { content, parent := some parent }) after ids) :
    Grown parent before (after.modify before.size fun p => { p with children := ids }) [before.size] := by
  have hsize : before.size < after.size := by
    have hle := h.size_le
    rw [Array.size_push] at hle
    omega
  have hinside : ∀ id, before.size ≤ id → id ≠ before.size →
      (before.push { content, parent := some parent }).size ≤ id := by
    intro id hle hne
    rw [Array.size_push]
    omega
  -- the part around them is still as it was put in when the others are added
  have hopen : parent? ⟨after⟩ before.size = some parent := by
    rw [parent?, h.part_eq before.size (by simp), part_push, if_pos rfl]
  refine
    { size_le := ?_, part_eq := fun id hid => ?_, own := ?_, sorted := List.pairwise_singleton _ _,
      inner := fun id hle hlt => ?_, ordered := fun id hle => ?_, below := fun id hle child hchild => ?_ }
  · rw [Array.size_modify]
    exact hsize.le
  · rw [part_modify, if_neg fun hboth => hid.ne' hboth.1, h.part_eq id (by rw [Array.size_push]; omega), part_push,
      if_neg hid.ne]
  · rw [List.forall_mem_singleton, Array.size_modify, parent?_giveChildren]
    exact ⟨Nat.le_refl _, hsize, hopen⟩
  · by_cases hid : id = before.size
    · exact .inl (List.mem_singleton.mpr hid)
    · rw [Array.size_modify] at hlt
      refine .inr ?_
      rw [parent?_giveChildren]
      rcases h.inner id (hinside id hle hid) hlt with hmem | ⟨p, hp, hparent, hchild⟩
      · refine ⟨before.size, Nat.le_refl _, (h.own id hmem).2.2, ?_⟩
        rwa [children_giveChildren hsize, if_pos rfl]
      · rw [Array.size_push] at hp
        refine ⟨p, by omega, hparent, ?_⟩
        rwa [children_giveChildren hsize, if_neg (by omega)]
  · rw [children_giveChildren hsize]
    split
    · exact h.sorted
    · exact h.ordered id (hinside id hle ‹_›)
  · rw [children_giveChildren hsize] at hchild
    rw [Array.size_modify, parent?_giveChildren]
    split at hchild
    · rename_i hid
      subst hid
      obtain ⟨hafter, hlt, hparent⟩ := h.own child hchild
      rw [Array.size_push] at hafter
      exact ⟨by omega, hlt, hparent⟩
    · exact h.below id (hinside id hle ‹_›) child hchild

/-- A part without anything in it is added. -/
theorem leaf (parent : Nat) (parts : Array Part) (content : Content) :
    Grown parent parts (parts.push { content, parent := some parent }) [parts.size] := by
  have henclosed := (nil parts.size (parts.push { content, parent := some parent })).enclose
  have hsame : (parts.push { content, parent := some parent }).modify parts.size
      (fun p => { p with children := [] }) = parts.push { content, parent := some parent } := by
    refine Array.ext_getElem? fun id => ?_
    rw [Array.getElem?_modify, Array.getElem?_push]
    by_cases hid : parts.size = id
    · simp [hid]
    · rw [if_neg hid]
  rwa [hsame] at henclosed

end Grown

mutual

/-- A node is added. -/
theorem grown_addNode (parent : Nat) (setting : Setting) (parts : Array Part) :
    ∀ node, Grown parent parts (addNode parent setting parts node) [parts.size]
  | .element name attributes nodes => by
      rw [addNode]
      exact (grown_addNodes parts.size (setting.within name) _ nodes).enclose
  | .text s => by
      rw [addNode]
      exact Grown.leaf parent parts _
  | .comment => by
      rw [addNode]
      exact Grown.leaf parent parts _

/-- Nodes are added one after the other. -/
theorem grown_addNodes (parent : Nat) (setting : Setting) (parts : Array Part) :
    ∀ nodes, Grown parent parts (addNodes parent setting parts nodes).1 (addNodes parent setting parts nodes).2
  | [] => by
      rw [addNodes]
      exact Grown.nil parent parts
  | node :: nodes => by
      rw [addNodes]
      exact (grown_addNode parent setting parts node).append (grown_addNodes parent setting _ nodes)

end

/-! ## Trees -/

/-- The numbers of children and of the parts they lie in agree, and go up on the way down. -/
structure IsTree (page : Page) : Prop where
  parent_of_child : ∀ {id child}, child ∈ page.children id → page.parent? child = some id
  child_of_parent : ∀ {id child}, page.parent? child = some id → child ∈ page.children id
  lt_of_child : ∀ {id child}, child ∈ page.children id → id < child ∧ child < page.parts.size
  nodup_children : ∀ id, (page.children id).Nodup

/-- The page of a tree is one. -/
theorem isTree_ofNodes (nodes : List Node) : (ofNodes nodes).IsTree := by
  have hgrown := grown_addNodes 0 {} #[{ content := .page }] nodes
  rw [ofNodes]
  generalize addNodes 0 {} #[{ content := .page }] nodes = added at hgrown
  obtain ⟨parts, ids⟩ := added
  dsimp only at hgrown ⊢
  have hsize : 0 < parts.size := Nat.lt_of_succ_le hgrown.size_le
  have htop : parent? ⟨parts⟩ 0 = none := by
    rw [parent?, hgrown.part_eq 0 (by simp)]
    rfl
  have hone : ∀ id, id ≠ 0 → (#[{ content := .page }] : Array Part).size ≤ id := fun id hid =>
    Nat.one_le_iff_ne_zero.mpr hid
  have hbelow : ∀ {id child}, child ∈ children ⟨parts.modify 0 fun p => { p with children := ids }⟩ id →
      id < child ∧ child < parts.size ∧ parent? ⟨parts⟩ child = some id := by
    intro id child hchild
    rw [children_giveChildren hsize] at hchild
    split at hchild
    · rename_i hid
      subst hid
      exact hgrown.own child hchild
    · exact hgrown.below id (hone id ‹_›) child hchild
  refine
    { parent_of_child := fun {id child} hchild => ?_, child_of_parent := fun {id child} hparent => ?_,
      lt_of_child := fun {id child} hchild => ?_, nodup_children := fun id => ?_ }
  · rw [parent?_giveChildren]
    exact (hbelow hchild).2.2
  · have hlt := lt_size_of_parent? hparent
    rw [Array.size_modify] at hlt
    rw [parent?_giveChildren] at hparent
    have hchild : child ≠ 0 := by
      rintro rfl
      rw [htop] at hparent
      cases hparent
    rw [children_giveChildren hsize]
    rcases hgrown.inner child (hone child hchild) hlt with hmem | ⟨p, hp, hparent', hinner⟩
    · have hid : id = 0 := Option.some.inj (hparent.symm.trans (hgrown.own child hmem).2.2)
      rwa [if_pos hid]
    · obtain rfl : p = id := Option.some.inj (hparent'.symm.trans hparent)
      rwa [if_neg (Nat.one_le_iff_ne_zero.mp hp)]
  · obtain ⟨hlt, hbound, -⟩ := hbelow hchild
    rw [Array.size_modify]
    exact ⟨hlt, hbound⟩
  · rw [children_giveChildren hsize]
    split
    · exact hgrown.sorted.imp fun h => h.ne
    · exact (hgrown.ordered id (hone id ‹_›)).imp fun h => h.ne

/-- **Hypertext makes up a tree**, however its tags stand. -/
theorem isTree_ofHypertext (text : String) : (ofHypertext text).IsTree :=
  isTree_ofNodes _

/-- One part lies in another, at any depth, or is it. -/
def LiesIn (page : Page) : Nat → Nat → Prop :=
  Relation.ReflTransGen fun id p => page.parent? id = some p

namespace IsTree

variable {page : Page}

/-- What lies in a part does not come before it. -/
theorem le_of_liesIn (h : page.IsTree) {id a : Nat} (hin : LiesIn page id a) : a ≤ id := by
  induction hin with
  | refl => exact Nat.le_refl id
  | tail _ hparent ih => exact (h.lt_of_child (h.child_of_parent hparent)).1.le.trans ih

/-- Of two parts in which a third one lies one lies in the other. -/
theorem liesIn_total {id a b : Nat} (ha : LiesIn page id a) (hb : LiesIn page id b) :
    LiesIn page a b ∨ LiesIn page b a :=
  Relation.ReflTransGen.total_of_right_unique (fun _ _ _ hp hq => Option.some.inj (hp.symm.trans hq)) ha hb

/-- No child of a part lies in another child. -/
theorem eq_of_liesIn_children (h : page.IsTree) {id a b : Nat} (ha : a ∈ page.children id)
    (hb : b ∈ page.children id) (hin : LiesIn page a b) : a = b := by
  rcases Relation.ReflTransGen.cases_head hin with heq | ⟨p, hparent, hrest⟩
  · exact heq
  · obtain rfl : id = p := Option.some.inj ((h.parent_of_child ha).symm.trans hparent)
    have hle := h.le_of_liesIn hrest
    have hlt := (h.lt_of_child hb).1
    omega

/-- What is found in a part lies in it and comes after it. -/
theorem liesIn_of_mem_descend (h : page.IsTree) {depth id a : Nat} (hmem : id ∈ page.descend depth a) :
    LiesIn page id a ∧ a < id ∧ id < page.parts.size := by
  induction depth generalizing a with
  | zero => cases hmem
  | succ depth ih =>
      rw [descend, List.mem_flatMap] at hmem
      obtain ⟨child, hchild, hmem⟩ := hmem
      obtain ⟨hlt, hbound⟩ := h.lt_of_child hchild
      have hstep : LiesIn page child a := .single (h.parent_of_child hchild)
      rcases List.mem_cons.mp hmem with rfl | hmem
      · exact ⟨hstep, hlt, hbound⟩
      · obtain ⟨hin, hafter, hsize⟩ := ih hmem
        exact ⟨hin.trans hstep, hlt.trans hafter, hsize⟩

theorem nodup_descend (h : page.IsTree) (depth id : Nat) : (page.descend depth id).Nodup := by
  induction depth generalizing id with
  | zero => exact List.nodup_nil
  | succ depth ih =>
      rw [descend, List.nodup_flatMap]
      refine ⟨fun child hchild => ?_, ?_⟩
      · refine List.nodup_cons.mpr ⟨fun hmem => ?_, ih child⟩
        exact Nat.lt_irrefl child (h.liesIn_of_mem_descend hmem).2.1
      · refine (h.nodup_children id).imp_of_mem fun {a b} ha hb hne => ?_
        have hin : ∀ {c x : Nat}, x ∈ c :: page.descend depth c → LiesIn page x c := by
          intro c x hx
          rcases List.mem_cons.mp hx with rfl | hx
          · exact .refl
          · exact (h.liesIn_of_mem_descend hx).1
        intro x hxa hxb
        rcases liesIn_total (hin hxa) (hin hxb) with hab | hba
        · exact hne (h.eq_of_liesIn_children ha hb hab)
        · exact hne (h.eq_of_liesIn_children hb ha hba).symm

/-- **No part is found twice in the order of the page.** -/
theorem nodup_descendants (h : page.IsTree) (id : Nat) : (page.descendants id).Nodup :=
  h.nodup_descend page.parts.size id

theorem lt_size_of_mem_descendants (h : page.IsTree) {id a : Nat} (hmem : id ∈ page.descendants a) :
    id < page.parts.size :=
  (h.liesIn_of_mem_descend hmem).2.2

/-- The children of a part are found in it. -/
theorem mem_descendants_of_child {id child : Nat} (h : child ∈ page.children id) : child ∈ page.descendants id := by
  rw [descendants]
  cases hsize : page.parts.size with
  | zero => exact absurd (lt_size_of_child h) (by omega)
  | succ depth => exact List.mem_flatMap.mpr ⟨child, h, List.mem_cons_self⟩

end IsTree

end MetaSearch.Markup.Page
