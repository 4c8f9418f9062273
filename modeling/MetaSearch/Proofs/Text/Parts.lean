import MetaSearch.Text.Basic
import Mathlib.Data.List.TakeDrop

/-!
# Texts at one mark

Cutting, splitting and replacing at a separator of one character.  A text falls apart at every place of the mark
(`splitOn_append`), and a replacement goes character by character (`replaceAll_singleton`).
-/

namespace MetaSearch.Text

/-- What is left behind the front of a text. -/
theorem drop_length_takeWhile (p : Char → Bool) (s : List Char) : s.drop (s.takeWhile p).length = s.dropWhile p := by
  induction s with
  | nil => rfl
  | cons c s ih => cases hc : p c <;> simp [hc, ih]

/-- What stands in the front of a text is of its kind. -/
theorem of_mem_takeWhile {p : Char → Bool} {s : List Char} {c : Char} (h : c ∈ s.takeWhile p) : p c = true :=
  List.all_eq_true.mp List.all_takeWhile c h

/-- A text begins with a mark, or it does not. -/
theorem after?_singleton (mark c : Char) (s : List Char) :
    after? [mark] (c :: s) = if mark = c then some s else none := by
  simp [after?]

/-- A text without a mark is cut nowhere. -/
theorem cut?_of_not_mem {mark : Char} {s : List Char} (h : mark ∉ s) : cut? [mark] s = none := by
  induction s with
  | nil => rfl
  | cons c s ih =>
      have hne : mark ≠ c := fun heq => h (heq ▸ List.mem_cons_self)
      simp [cut?, after?, hne, ih fun hmem => h (List.mem_cons_of_mem c hmem)]

/-- A text is cut at the first place of a mark. -/
theorem cut?_append {mark : Char} {front : List Char} (h : mark ∉ front) (rest : List Char) :
    cut? [mark] (front ++ mark :: rest) = some (front, rest) := by
  induction front with
  | nil => simp [cut?, after?]
  | cons c front ih =>
      have hne : mark ≠ c := fun heq => h (heq ▸ List.mem_cons_self)
      simp [cut?, after?, hne, ih fun hmem => h (List.mem_cons_of_mem c hmem)]

/-- A text that is cut nowhere has no mark. -/
theorem not_mem_of_cut? {mark : Char} {s : List Char} (h : cut? [mark] s = none) : mark ∉ s := by
  intro hmem
  induction s with
  | nil => cases hmem
  | cons c s ih =>
      rw [cut?, after?_singleton] at h
      by_cases hc : mark = c
      · simp [hc] at h
      · rw [if_neg hc] at h
        have hrest : cut? [mark] s = none := by simpa using h
        rcases List.mem_cons.mp hmem with rfl | hmem
        · exact hc rfl
        · exact ih hrest hmem

/-- A text holds what stands in it. -/
theorem holds_of_isInfix {part s : List Char} (h : part <:+: s) : holds part s = true := by
  obtain ⟨before, after, rfl⟩ := h
  rw [List.append_assoc]
  induction before with
  | nil =>
      cases h : part ++ after with
      | nil =>
          obtain ⟨rfl, rfl⟩ := List.append_eq_nil_iff.mp h
          rfl
      | cons c s =>
          have hafter := after?_append part after
          rw [h] at hafter
          simp [holds, cut?, hafter]
  | cons c before ih =>
      obtain ⟨found, hfound⟩ := Option.isSome_iff_exists.mp ih
      simp only [holds, List.cons_append, cut?, hfound]
      split <;> rfl

/-- A text holds what stands in it, and nothing else. -/
theorem holds_iff_isInfix {part s : List Char} : holds part s = true ↔ part <:+: s := by
  refine ⟨fun h => ?_, holds_of_isInfix⟩
  obtain ⟨⟨front, rest⟩, hcut⟩ := Option.isSome_iff_exists.mp h
  exact ⟨front, rest, (eq_append_of_cut? hcut).symm⟩

/-- A character stands in a text exactly when the text contains it. -/
theorem contains_iff {mark : Char} {part : String} (hpart : part.toList = [mark]) (s : String) :
    contains s part = true ↔ mark ∈ s.toList := by
  rw [contains, holds, hpart]
  constructor
  · intro h
    by_contra hmem
    rw [cut?_of_not_mem hmem] at h
    cases h
  · intro hmem
    cases hcut : cut? [mark] s.toList with
    | none => exact absurd hmem (not_mem_of_cut? hcut)
    | some pieces => rfl

/-- A text is cut at the first mark. -/
theorem not_mem_front_of_cut? {mark : Char} {s front rest : List Char} (h : cut? [mark] s = some (front, rest)) :
    mark ∉ front := by
  induction s generalizing front with
  | nil => simp [cut?, after?] at h
  | cons c s ih =>
      rw [cut?, after?_singleton] at h
      by_cases hc : mark = c
      · simp only [hc, if_true, Option.some.injEq, Prod.mk.injEq] at h
        simp [← h.1]
      · simp only [if_neg hc, Option.map_eq_some_iff] at h
        obtain ⟨⟨front', rest'⟩, hcut, heq⟩ := h
        obtain ⟨rfl, rfl⟩ := Prod.mk.inj heq
        simpa [hc] using ih hcut

/-- What holds no mark stays in front where a text is cut. -/
theorem cut?_front {mark : Char} {front : List Char} (h : mark ∉ front) (s : List Char) :
    cut? [mark] (front ++ s) = (cut? [mark] s).map fun (first, rest) => (front ++ first, rest) := by
  induction front with
  | nil =>
      rw [List.nil_append]
      cases cut? [mark] s <;> rfl
  | cons c front ih =>
      have hne : mark ≠ c := fun heq => h (heq ▸ List.mem_cons_self)
      rw [List.cons_append, cut?, after?_singleton, if_neg hne]
      simp only [ih fun hmem => h (List.mem_cons_of_mem c hmem), Option.map_map]
      rfl

/-- Splitting goes on behind a mark, and one part is open before it. -/
theorem splitFrom_append (mark : Char) (part first rest : List Char) :
    splitFrom [mark] 0 part (first ++ mark :: rest) = splitFrom [mark] 0 part first ++ splitOn [mark] rest := by
  induction first generalizing part with
  | nil => simp [splitFrom, splitOn, begins, after?]
  | cons c first ih =>
      by_cases hc : mark = c
      · subst hc
        simp [splitFrom, begins, after?, ih]
      · simp [splitFrom, begins, after?, hc, ih]

/-- A text falls apart at a mark. -/
theorem splitOn_append (mark : Char) (first rest : List Char) :
    splitOn [mark] (first ++ mark :: rest) = splitOn [mark] first ++ splitOn [mark] rest :=
  splitFrom_append mark [] first rest

/-- A text without a mark stays in one part behind what is open. -/
theorem splitFrom_of_not_mem {mark : Char} (part : List Char) {s : List Char} (h : mark ∉ s) :
    splitFrom [mark] 0 part s = [part.reverse ++ s] := by
  induction s generalizing part with
  | nil => simp [splitFrom]
  | cons c s ih =>
      have hne : mark ≠ c := fun heq => h (heq ▸ List.mem_cons_self)
      simp [splitFrom, begins, after?, hne, ih (c :: part) fun hmem => h (List.mem_cons_of_mem c hmem)]

/-- A text without a mark stays in one part. -/
theorem splitOn_of_not_mem {mark : Char} {s : List Char} (h : mark ∉ s) : splitOn [mark] s = [s] :=
  splitFrom_of_not_mem [] h

/-- Parts without a mark that are joined by it are found again. -/
theorem splitOn_intercalate {mark : Char} {part : List Char} {parts : List (List Char)} (hpart : mark ∉ part)
    (hparts : ∀ p ∈ parts, mark ∉ p) : splitOn [mark] ([mark].intercalate (part :: parts)) = part :: parts := by
  induction parts generalizing part with
  | nil => rw [List.intercalate_singleton, splitOn_of_not_mem hpart]
  | cons next rest ih =>
      obtain ⟨hnext, hrest⟩ := List.forall_mem_cons.mp hparts
      rw [List.intercalate_cons_cons, List.append_assoc, List.singleton_append, splitOn_append,
        splitOn_of_not_mem hpart, ih hnext hrest]
      rfl

/-- Texts without a mark that are joined by it are found again. -/
theorem split_intercalate {sep : String} {mark : Char} (hsep : sep.toList = [mark]) {parts : List String}
    (hne : parts ≠ []) (h : ∀ p ∈ parts, mark ∉ p.toList) : split sep (sep.intercalate parts) = parts := by
  obtain ⟨part, parts, rfl⟩ := List.exists_cons_of_ne_nil hne
  obtain ⟨hpart, hparts⟩ := List.forall_mem_cons.mp h
  have hfound : splitOn [mark] ([mark].intercalate (part.toList :: parts.map String.toList)) =
      part.toList :: parts.map String.toList := splitOn_intercalate hpart (by simpa using hparts)
  rw [split, String.toList_intercalate, hsep, List.map_cons, hfound, List.map_cons, List.map_map]
  simp

/-! ## Replacing -/

/-- What is open when splitting begins goes before the first part. -/
theorem splitFrom_open (sep : List Char) (skip : Nat) (s : List Char) :
    ∃ first rest, ∀ part, splitFrom sep skip part s = (part.reverse ++ first) :: rest := by
  induction s generalizing skip with
  | nil => exact ⟨[], [], fun part => by simp [splitFrom]⟩
  | cons c s ih =>
      cases skip with
      | succ skip =>
          obtain ⟨first, rest, hopen⟩ := ih skip
          exact ⟨first, rest, fun part => by rw [splitFrom, hopen]⟩
      | zero =>
          by_cases hsep : begins sep (c :: s) = true
          · exact ⟨[], splitFrom sep (sep.length - 1) [] s, fun part => by simp [splitFrom, hsep]⟩
          · obtain ⟨first, rest, hopen⟩ := ih 0
            exact ⟨c :: first, rest, fun part => by simp [splitFrom, hsep, hopen]⟩

/-- What holds no mark stays in front of the first part. -/
theorem splitOn_front (mark : Char) (s : List Char) :
    ∃ first rest, splitOn [mark] s = first :: rest ∧
      ∀ front, mark ∉ front → splitOn [mark] (front ++ s) = (front ++ first) :: rest := by
  obtain ⟨first, rest, hopen⟩ := splitFrom_open [mark] 0 s
  have hfront : ∀ front part : List Char, mark ∉ front →
      splitFrom [mark] 0 part (front ++ s) = splitFrom [mark] 0 (front.reverse ++ part) s := by
    intro front
    induction front with
    | nil => exact fun part _ => rfl
    | cons c front ih =>
        intro part h
        have hne : mark ≠ c := fun heq => h (heq ▸ List.mem_cons_self)
        rw [List.cons_append, splitFrom, begins, after?_singleton, if_neg hne, Option.isSome_none,
          if_neg Bool.false_ne_true, ih (c :: part) fun hmem => h (List.mem_cons_of_mem c hmem)]
        simp
  refine ⟨first, rest, hopen [], fun front h => ?_⟩
  rw [splitOn, hfront front [] h, hopen]
  simp

/-- What is passed over of a separator leaves no trace. -/
theorem splitFrom_skip (sep front rest : List Char) :
    splitFrom sep front.length [] (front ++ rest) = splitOn sep rest := by
  induction front with
  | nil => rfl
  | cons c front ih => rw [List.length_cons, List.cons_append, splitFrom, ih]

/-- What stands before the first part stands before the joined text. -/
theorem joinWith_append (image part first : List Char) (rest : List (List Char)) :
    joinWith image ((part ++ first) :: rest) = part ++ joinWith image (first :: rest) := by
  cases rest <;> simp [joinWith]

/-- A character at which the replaced part does not begin stays. -/
theorem replaceAll_cons {part : List Char} {c : Char} {s : List Char} (h : begins part (c :: s) = false)
    (image : List Char) : replaceAll part image (c :: s) = c :: replaceAll part image s := by
  obtain ⟨first, rest, hopen⟩ := splitFrom_open part 0 s
  have hclosed : splitOn part s = first :: rest := hopen []
  have hsplit : splitOn part (c :: s) = ([c] ++ first) :: rest := by
    rw [splitOn, splitFrom, h]
    exact hopen [c]
  rw [replaceAll, replaceAll, hsplit, hclosed, joinWith_append]
  rfl

/-- The replaced part becomes its image. -/
theorem replaceAll_part (a : Char) (part image rest : List Char) :
    replaceAll (a :: part) image (a :: part ++ rest) = image ++ replaceAll (a :: part) image rest := by
  have hbegins : ∀ p : List Char, begins p (p ++ rest) = true := by
    intro p
    induction p with
    | nil => rfl
    | cons d p ih => simpa [begins, after?] using ih
  have hsplit : splitOn (a :: part) (a :: part ++ rest) = [] :: splitOn (a :: part) rest := by
    have hhere := hbegins (a :: part)
    rw [List.cons_append] at hhere ⊢
    rw [splitOn, splitFrom, hhere, if_pos rfl, List.length_cons, Nat.add_sub_cancel, splitFrom_skip]
    rfl
  obtain ⟨first, others, hopen⟩ := splitFrom_open (a :: part) 0 rest
  have hrest : splitOn (a :: part) rest = first :: others := hopen []
  rw [replaceAll, replaceAll, hsplit, hrest]
  rfl

/-- Replacing one character goes character by character. -/
theorem replaceAll_singleton (mark : Char) (image s : List Char) :
    replaceAll [mark] image s = s.flatMap fun c => if c = mark then image else [c] := by
  induction s with
  | nil => rfl
  | cons c s ih =>
      by_cases hc : c = mark
      · subst hc
        rw [List.flatMap_cons, if_pos rfl, ← ih]
        exact replaceAll_part c [] image s
      · rw [List.flatMap_cons, if_neg hc, ← ih, replaceAll_cons (by simp [begins, after?, Ne.symm hc])]
        rfl

/-! ## What parts and joined texts consist of -/

/-- Joined texts consist of the texts and what joins them. -/
theorem mem_intercalate {sep : List Char} {parts : List (List Char)} {c : Char} :
    c ∈ sep.intercalate parts → c ∈ sep ∨ ∃ part ∈ parts, c ∈ part := by
  induction parts with
  | nil => simp
  | cons part rest ih =>
      intro hc
      by_cases hrest : rest = []
      · subst hrest
        exact .inr ⟨part, by simp, by simpa using hc⟩
      · rw [List.intercalate_cons_of_ne_nil hrest] at hc
        rcases List.mem_append.mp hc with hc | hc
        · rcases List.mem_append.mp hc with hc | hc
          · exact .inr ⟨part, by simp, hc⟩
          · exact .inl hc
        · rcases ih hc with h | ⟨p, hp, h⟩
          · exact .inl h
          · exact .inr ⟨p, by simp [hp], h⟩

/-- Every joined text is a part of the whole. -/
theorem mem_intercalate_of_mem {sep part : List Char} {parts : List (List Char)} (hpart : part ∈ parts) {c : Char}
    (hc : c ∈ part) : c ∈ sep.intercalate parts := by
  induction parts with
  | nil => simp at hpart
  | cons first rest ih =>
      by_cases hrest : rest = []
      · subst hrest
        obtain rfl := by simpa using hpart
        simpa using hc
      · rw [List.intercalate_cons_of_ne_nil hrest]
        rcases List.mem_cons.mp hpart with rfl | hpart
        · simp [hc]
        · simp [ih hpart]

/-- What stands in an open part or behind it stands in a part. -/
theorem mem_of_mem_splitFrom {sep s part : List Char} {skip : Nat} {opened : List Char}
    (hpart : part ∈ splitFrom sep skip opened s) {c : Char} (hc : c ∈ part) : c ∈ opened ∨ c ∈ s := by
  induction s generalizing skip opened with
  | nil =>
      rw [splitFrom, List.mem_singleton] at hpart
      exact .inl (by simpa [hpart] using hc)
  | cons d s ih =>
      cases skip with
      | succ skip =>
          rw [splitFrom] at hpart
          exact (ih hpart).imp_right (List.mem_cons_of_mem d)
      | zero =>
          rw [splitFrom] at hpart
          split at hpart
          · rcases List.mem_cons.mp hpart with rfl | hpart
            · exact .inl (by simpa using hc)
            · rcases ih hpart with h | h
              · cases h
              · exact .inr (List.mem_cons_of_mem d h)
          · rcases ih hpart with h | h
            · rcases List.mem_cons.mp h with rfl | h
              · exact .inr List.mem_cons_self
              · exact .inl h
            · exact .inr (List.mem_cons_of_mem d h)

/-- The parts of a text consist of the text. -/
theorem mem_of_mem_split {sep s part : String} (hpart : part ∈ split sep s) {c : Char} (hc : c ∈ part.toList) :
    c ∈ s.toList := by
  obtain ⟨piece, hpiece, rfl⟩ := List.mem_map.mp hpart
  rw [String.toList_ofList] at hc
  rcases mem_of_mem_splitFrom hpiece hc with h | h
  · cases h
  · exact h

end MetaSearch.Text
