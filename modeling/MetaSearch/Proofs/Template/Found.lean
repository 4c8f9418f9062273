import MetaSearch.Proofs.Template.Pass

/-!
# What a pass finds

A pass goes through a text from the left and looks for if-blocks, or for actions.  What it finds is a part of the text
(`ifBlock?_eq_some`, `eq_append_of_braced?`), so that a pass cuts the text into parts: some stay as they are, and of the
others an if-block becomes one of its branches and an action its value, which is held.  `resolveConditionals_induction`
and `resolveActions_induction` say so once for all that is proved about passes over any text, well formed or not.
-/

namespace MetaSearch.Template

/-! ## What is found is a part of the text -/

/-- Double braces around a text. -/
def enclosed (inner : List Char) : List Char :=
  '\x7b' :: '\x7b' :: (inner ++ ['\x7d', '\x7d'])

theorem eq_append_of_braced? {s inner rest : List Char} (h : braced? s = some (inner, rest)) :
    s = enclosed inner ++ rest ∧ ∀ c ∈ inner, isBrace c = false := by
  unfold braced? at h
  split at h
  · rename_i t
    dsimp only at h
    split at h
    · rename_i found hfound
      obtain ⟨rfl, rfl⟩ := by simpa using h
      refine ⟨?_, fun c hc => by simpa using Text.of_mem_takeWhile hc⟩
      have hwhole : t.takeWhile (!isBrace ·) ++ '\x7d' :: '\x7d' :: found = t := by
        rw [← hfound, Text.drop_length_takeWhile, List.takeWhile_append_dropWhile]
      conv => lhs; rw [← hwhole]
      simp [enclosed]
    · cases h
  · cases h

/-- What is left of the inside of double braces is a part of it. -/
theorem mem_of_mem_trimmed {inner : List Char} {c : Char} (h : c ∈ trimmed inner) : c ∈ inner := by
  have hclose : ∀ {s : List Char}, c ∈ closeTrimmed s → c ∈ s := by
    intro s hc
    unfold closeTrimmed Text.dropEndWhile at hc
    have hkept := List.mem_reverse.mp (List.dropWhile_subset _ (List.mem_reverse.mp hc))
    split at hkept
    · exact (List.dropLast_sublist _).mem hkept
    · exact hkept
  have hopen : ∀ {s : List Char}, c ∈ openTrimmed s → c ∈ s := by
    intro s hc
    have hkept := List.dropWhile_subset _ hc
    split at hkept
    · exact List.mem_cons_of_mem _ hkept
    · exact hkept
  exact hopen (hclose h)

/-- What follows a keyword is the end of the text. -/
theorem exists_of_keyword? {word : String} {s rest : List Char} (h : keyword? word s = some rest) :
    ∃ tag, s = tag ++ rest := by
  obtain ⟨⟨inner, found⟩, hbraced, htail⟩ := Option.bind_eq_some_iff.mp h
  have hrest : found = rest := by
    dsimp only at htail
    split at htail
    · split at htail
      · exact Option.some.inj htail
      · cases htail
    · cases htail
  subst hrest
  exact ⟨enclosed inner, (eq_append_of_braced? hbraced).1⟩

/-- What follows the opening of an if-block is the end of the text, and the opening begins with two braces. -/
theorem exists_of_ifOpening? {s cond rest : List Char} (h : ifOpening? s = some (cond, rest)) :
    ∃ tag, s = '\x7b' :: '\x7b' :: (tag ++ rest) := by
  obtain ⟨⟨inner, found⟩, hbraced, htail⟩ := Option.bind_eq_some_iff.mp h
  have hrest : found = rest := by
    dsimp only at htail
    split at htail
    · split_ifs at htail <;> simp_all
    · cases htail
  subst hrest
  refine ⟨inner ++ ['\x7d', '\x7d'], ?_⟩
  rw [(eq_append_of_braced? hbraced).1]
  simp [enclosed]

/-- A branch up to the end of the if-block is the beginning of the text. -/
theorem untilEnd_eq_some {s body rest : List Char} (h : untilEnd s = some (body, rest)) :
    ∃ tag, s = body ++ (tag ++ rest) := by
  induction s generalizing body with
  | nil => cases h
  | cons c s ih =>
      unfold untilEnd at h
      split at h
      · rename_i found hend
        obtain ⟨rfl, rfl⟩ := by simpa using h
        exact exists_of_keyword? hend
      · split at h
        · cases h
        · obtain ⟨⟨body', rest'⟩, hfound, heq⟩ := Option.map_eq_some_iff.mp h
          obtain ⟨rfl, rfl⟩ := by simpa using heq
          obtain ⟨tag, rfl⟩ := ih hfound
          exact ⟨tag, rfl⟩

/-- Two branches stand in the text in their order, with a tag behind each that may be empty. -/
theorem branches_eq_some {s first otherwise rest : List Char} (h : branches s = some (first, otherwise, rest)) :
    ∃ between after, s = first ++ (between ++ (otherwise ++ (after ++ rest))) := by
  induction s generalizing first with
  | nil => cases h
  | cons c s ih =>
      unfold branches at h
      split at h
      · rename_i otherwise' rest' helse
        obtain ⟨rfl, rfl, rfl⟩ := by simpa using h
        obtain ⟨found, hkeyword, hend⟩ := Option.bind_eq_some_iff.mp helse
        obtain ⟨between, hbetween⟩ := exists_of_keyword? hkeyword
        obtain ⟨after, rfl⟩ := untilEnd_eq_some hend
        exact ⟨between, after, hbetween⟩
      · split at h
        · rename_i found hend
          obtain ⟨rfl, rfl, rfl⟩ := by simpa using h
          obtain ⟨tag, htag⟩ := exists_of_keyword? hend
          exact ⟨tag, [], htag⟩
        · split at h
          · cases h
          · obtain ⟨⟨first', otherwise', rest'⟩, hfound, heq⟩ := Option.map_eq_some_iff.mp h
            obtain ⟨rfl, rfl, rfl⟩ := by simpa using heq
            obtain ⟨between, after, rfl⟩ := ih hfound
            exact ⟨between, after, rfl⟩

/-- **An if-block is the beginning of the text.**  It opens with two braces, and each of its branches is a part of what
follows them. -/
theorem ifBlock?_eq_some {s cond first otherwise rest : List Char}
    (h : ifBlock? s = some (cond, first, otherwise, rest)) :
    ∃ inside, s = '\x7b' :: '\x7b' :: inside ++ rest ∧ first.Sublist inside ∧ otherwise.Sublist inside := by
  obtain ⟨⟨cond', behind⟩, hopening, htail⟩ := Option.bind_eq_some_iff.mp h
  obtain ⟨⟨first', otherwise', rest'⟩, hbranches, heq⟩ := Option.bind_eq_some_iff.mp htail
  obtain ⟨rfl, rfl, rfl, rfl⟩ := by simpa using heq
  obtain ⟨tag, rfl⟩ := exists_of_ifOpening? hopening
  obtain ⟨between, after, rfl⟩ := branches_eq_some hbranches
  refine ⟨tag ++ (first' ++ (between ++ (otherwise' ++ after))), by simp, ?_, ?_⟩
  · have hinner : first'.Sublist (first' ++ (between ++ (otherwise' ++ after))) := List.sublist_append_left _ _
    exact hinner.trans (List.sublist_append_right _ _)
  · have hinner : otherwise'.Sublist (between ++ (otherwise' ++ after)) :=
      (List.sublist_append_left _ _).trans (List.sublist_append_right _ _)
    exact (hinner.trans (List.sublist_append_right _ _)).trans (List.sublist_append_right _ _)

/-! ## Going through a text -/

section

variable (env : Environment)

/-- A block whose condition has no truth value stays. -/
theorem resolveConditionals_kept {block rest cond first otherwise : List Char}
    (hblock : ifBlock? (block ++ rest) = some (cond, first, otherwise, rest)) (hcond : condition? env cond = none)
    (hne : block ≠ []) :
    resolveConditionals env 0 (block ++ rest) = block ++ resolveConditionals env 0 rest := by
  cases block with
  | nil => exact absurd rfl hne
  | cons c s =>
      rw [List.cons_append] at hblock ⊢
      have hlength : (s ++ rest).length - rest.length = s.length := by simp
      have htake : (c :: (s ++ rest)).take (s.length + 1) = c :: s := by simp
      simp only [resolveConditionals, hblock, hcond, hlength, htake, resolveConditionals_skip]

/-- **What a pass over the if-blocks keeps.**  It is kept along parts that stay, and along if-blocks that become a part
of what stands behind their two opening braces. -/
theorem resolveConditionals_induction {P : List Char → List Char → Prop} (nil : P [] [])
    (stays : ∀ part rest image, P rest image → P (part ++ rest) (part ++ image))
    (chosen : ∀ inside branch rest image, branch.Sublist inside → P rest image →
      P ('\x7b' :: '\x7b' :: inside ++ rest) (branch ++ image)) (s : List Char) :
    P s (resolveConditionals env 0 s) := by
  induction hlength : s.length using Nat.strongRecOn generalizing s with
  | ind n ih =>
      cases s with
      | nil => exact nil
      | cons c s =>
          cases hblock : ifBlock? (c :: s) with
          | none =>
              rw [resolveConditionals_cons hblock]
              have hshorter : s.length < n := by
                rw [← hlength]
                exact Nat.lt_succ_self _
              exact stays [c] s _ (ih s.length hshorter s rfl)
          | some found =>
              obtain ⟨cond, first, otherwise, rest⟩ := found
              obtain ⟨inside, heq, hfirst, hotherwise⟩ := ifBlock?_eq_some hblock
              rw [heq] at hblock hlength ⊢
              have hshorter : rest.length < n := by
                rw [← hlength, List.length_append, List.length_cons]
                omega
              have hrest := ih rest.length hshorter rest rfl
              cases hcond : condition? env cond with
              | none =>
                  rw [resolveConditionals_kept env hblock hcond (List.cons_ne_nil _ _)]
                  exact stays _ rest _ hrest
              | some b =>
                  rw [resolveConditionals_block hblock hcond (List.cons_ne_nil _ _)]
                  cases b with
                  | true => exact chosen inside first rest _ hfirst hrest
                  | false => exact chosen inside otherwise rest _ hotherwise hrest

/-- **A pass over the if-blocks leaves out characters** and does nothing else. -/
theorem resolveConditionals_sublist (s : List Char) : (resolveConditionals env 0 s).Sublist s := by
  refine resolveConditionals_induction (P := fun s image => image.Sublist s) env List.Sublist.slnil ?_ ?_ s
  · intro part rest image ih
    exact (List.Sublist.refl part).append ih
  · intro inside branch rest image hbranch ih
    exact ((hbranch.cons _).cons _).append ih

/-- **What a pass over the actions keeps.**  It is kept along parts that stay, and along actions that become their
value. -/
theorem resolveActions_induction {P : List Char → List Char → Prop} (encode : String → String) (nil : P [] [])
    (stays : ∀ part rest image, P rest image → P (part ++ rest) (part ++ image))
    (filled : ∀ inner rest image text, (∀ c ∈ inner, isBrace c = false) → action? env (trimmed inner) = some text →
      P rest image → P (enclosed inner ++ rest) ((encode text).toList.map hold ++ image)) (s : List Char) :
    P s (resolveActions env encode 0 s) := by
  induction hlength : s.length using Nat.strongRecOn generalizing s with
  | ind n ih =>
      cases s with
      | nil => exact nil
      | cons c s =>
          cases hbraced : braced? (c :: s) with
          | none =>
              have hshorter : s.length < n := by
                rw [← hlength]
                exact Nat.lt_succ_self _
              have hcopied : resolveActions env encode 0 (c :: s) = [c] ++ resolveActions env encode 0 s := by
                simp [resolveActions, hbraced]
              rw [hcopied]
              exact stays [c] s _ (ih s.length hshorter s rfl)
          | some found =>
              obtain ⟨inner, rest⟩ := found
              obtain ⟨heq, hinner⟩ := eq_append_of_braced? hbraced
              have hblock : (enclosed inner).length = inner.length + 4 := by simp [enclosed]
              rw [heq] at hbraced hlength ⊢
              have hshorter : rest.length < n := by
                rw [← hlength, List.length_append]
                omega
              have hrest := ih rest.length hshorter rest rfl
              rw [resolveActions_block env encode hbraced hblock]
              cases haction : action? env (trimmed inner) with
              | none => exact stays _ rest _ hrest
              | some text => exact filled inner rest _ text hinner haction hrest

end

end MetaSearch.Template
