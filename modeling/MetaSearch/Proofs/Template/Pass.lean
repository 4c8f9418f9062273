import MetaSearch.Proofs.Template.Tag

/-!
# One pass over a template

A pass replaces every if-block without another one inside by a branch and every action by its text, and on the text
that a template is written as it does exactly that: `resolveConditionals_source` and `resolveActions_source` say that
rewriting the text is contracting the tree (`Form.contract`) and filling it in (`Form.fill`).
-/

namespace MetaSearch.Template

/-! ## Branches -/

/-- What is found behind a text, with the text in front. -/
def behind {γ : Type} (s : List Char) (found : Option (List Char × γ)) : Option (List Char × γ) :=
  found.map fun f => (s ++ f.1, f.2)

/-- What is found behind a character, with the character in front. -/
def behindChar {γ : Type} (c : Char) (found : Option (List Char × γ)) : Option (List Char × γ) :=
  found.map fun f => (c :: f.1, f.2)

theorem foldr_behindChar {γ : Type} (s : List Char) (found : Option (List Char × γ)) :
    s.foldr behindChar found = behind s found := by
  induction s with
  | nil => cases found <;> rfl
  | cons c s ih => rw [List.foldr_cons, ih]; cases found <;> rfl

theorem behind_append {γ : Type} (s t : List Char) (found : Option (List Char × γ)) :
    behind (s ++ t) found = behind s (behind t found) := by
  cases found <;> simp [behind]

theorem untilEnd_cons {c : Char} {s : List Char} (hend : keyword? "end" (c :: s) = none)
    (hif : opensIf (c :: s) = false) : untilEnd (c :: s) = behindChar c (untilEnd s) := by
  simp [untilEnd, hend, hif, behindChar]

theorem branches_cons {c : Char} {s : List Char} (helse : (keyword? "else" (c :: s)).bind untilEnd = none)
    (hend : keyword? "end" (c :: s) = none) (hif : opensIf (c :: s) = false) :
    branches (c :: s) = behindChar c (branches s) := by
  simp [branches, helse, hend, hif, behindChar]

theorem copies_untilEnd : Copies untilEnd behindChar :=
  fun _ _ h => untilEnd_cons (keyword?_of_not_opens h) (opensIf_of_not_opens h)

theorem copies_branches : Copies branches behindChar :=
  fun _ _ h => branches_cons (by simp [keyword?_of_not_opens h]) (keyword?_of_not_opens h)
    (opensIf_of_not_opens h)

theorem untilEnd_eq_none {c : Char} {s : List Char} (hend : keyword? "end" (c :: s) = none)
    (hif : opensIf (c :: s) = true) : untilEnd (c :: s) = none := by
  simp [untilEnd, hend, hif]

theorem branches_eq_none {c : Char} {s : List Char} (helse : keyword? "else" (c :: s) = none)
    (hend : keyword? "end" (c :: s) = none) (hif : opensIf (c :: s) = true) : branches (c :: s) = none := by
  simp [branches, helse, hend, hif]

/-- A tag in a branch is passed where it is no keyword and opens no if-block. -/
theorem untilEnd_tag {body : List Char} (hbody : ∀ c ∈ body, isBrace c = false) {rest : List Char}
    (hend : keyword? "end" (tag body ++ rest) = none) (hif : opensIf (tag body ++ rest) = false) :
    untilEnd (tag body ++ rest) = behind (tag body) (untilEnd rest) := by
  rw [copies_untilEnd.tag hbody rest (untilEnd_cons hend hif), foldr_behindChar]

theorem branches_tag {body : List Char} (hbody : ∀ c ∈ body, isBrace c = false) {rest : List Char}
    (helse : (keyword? "else" (tag body ++ rest)).bind untilEnd = none)
    (hend : keyword? "end" (tag body ++ rest) = none) (hif : opensIf (tag body ++ rest) = false) :
    branches (tag body ++ rest) = behind (tag body) (branches rest) := by
  rw [copies_branches.tag hbody rest (branches_cons helse hend hif), foldr_behindChar]

theorem not_mem_of_isBrace {s : List Char} (hs : ∀ c ∈ s, isBrace c = false) : '\x7b' ∉ s :=
  fun h => absurd (hs _ h) (by decide)

namespace Form

/-- The end of a branch is looked for behind a template without if-blocks. -/
theorem untilEnd_source_of_flat {f : Form} (hf : f.WellFormed) (hflat : f.depth = 0) (rest : List Char) :
    untilEnd (f.source ++ rest) = behind f.source (untilEnd rest) := by
  induction f generalizing rest with
  | text s => rw [source, copies_untilEnd.append (not_mem_of_isBrace hf), foldr_behindChar]
  | action body =>
      obtain ⟨-, hend, hif, -⟩ := action_tag hf.1 hf.2 rest
      exact untilEnd_tag hf.1 hend hif
  | guarded cond first => simp [depth] at hflat
  | choice cond first otherwise => simp [depth] at hflat
  | joined a b iha ihb =>
      obtain ⟨ha, hb⟩ : a.depth = 0 ∧ b.depth = 0 := by simpa [depth] using hflat
      rw [source, List.append_assoc, iha hf.1 ha, ihb hf.2 hb, behind_append]

/-- The branches are looked for behind a template without if-blocks. -/
theorem branches_source_of_flat {f : Form} (hf : f.WellFormed) (hflat : f.depth = 0) (rest : List Char) :
    branches (f.source ++ rest) = behind f.source (branches rest) := by
  induction f generalizing rest with
  | text s => rw [source, copies_branches.append (not_mem_of_isBrace hf), foldr_behindChar]
  | action body =>
      obtain ⟨helse, hend, hif, -⟩ := action_tag hf.1 hf.2 rest
      exact branches_tag hf.1 (by simp [helse]) hend hif
  | guarded cond first => simp [depth] at hflat
  | choice cond first otherwise => simp [depth] at hflat
  | joined a b iha ihb =>
      obtain ⟨ha, hb⟩ : a.depth = 0 ∧ b.depth = 0 := by simpa [depth] using hflat
      rw [source, List.append_assoc, iha hf.1 ha, ihb hf.2 hb, behind_append]

/-- A branch with an if-block in it has no end, as long as that block stands. -/
theorem untilEnd_source_of_nested {f : Form} (hf : f.WellFormed) (hnested : 0 < f.depth) (rest : List Char) :
    untilEnd (f.source ++ rest) = none := by
  induction f generalizing rest with
  | text s => simp [depth] at hnested
  | action body => simp [depth] at hnested
  | guarded cond first =>
      rw [source, List.append_assoc, List.append_assoc]
      obtain ⟨-, hend, hif⟩ := opens_ifTag hf.1 hf.2.1 (first.source ++ (endTag ++ rest))
      exact untilEnd_eq_none hend hif
  | choice cond first otherwise =>
      simp only [source, List.append_assoc]
      obtain ⟨-, hend, hif⟩ := opens_ifTag hf.1 hf.2.1
        (first.source ++ (elseTag ++ (otherwise.source ++ (endTag ++ rest))))
      exact untilEnd_eq_none hend hif
  | joined a b iha ihb =>
      rw [source, List.append_assoc]
      by_cases ha : a.depth = 0
      · rw [untilEnd_source_of_flat hf.1 ha, ihb hf.2 (by simpa [depth, ha] using hnested)]
        rfl
      · exact iha hf.1 (by omega) _

/-- The branches are not found where the first one has an if-block in it, as long as that block stands. -/
theorem branches_source_of_nested {f : Form} (hf : f.WellFormed) (hnested : 0 < f.depth) (rest : List Char) :
    branches (f.source ++ rest) = none := by
  induction f generalizing rest with
  | text s => simp [depth] at hnested
  | action body => simp [depth] at hnested
  | guarded cond first =>
      rw [source, List.append_assoc, List.append_assoc]
      obtain ⟨helse, hend, hif⟩ := opens_ifTag hf.1 hf.2.1 (first.source ++ (endTag ++ rest))
      exact branches_eq_none helse hend hif
  | choice cond first otherwise =>
      simp only [source, List.append_assoc]
      obtain ⟨helse, hend, hif⟩ := opens_ifTag hf.1 hf.2.1
        (first.source ++ (elseTag ++ (otherwise.source ++ (endTag ++ rest))))
      exact branches_eq_none helse hend hif
  | joined a b iha ihb =>
      rw [source, List.append_assoc]
      by_cases ha : a.depth = 0
      · rw [branches_source_of_flat hf.1 ha, ihb hf.2 (by simpa [depth, ha] using hnested)]
        rfl
      · exact iha hf.1 (by omega) _

end Form

theorem untilEnd_of_end {c : Char} {s rest : List Char} (hend : keyword? "end" (c :: s) = some rest) :
    untilEnd (c :: s) = some ([], rest) := by
  simp [untilEnd, hend]

theorem branches_of_end {c : Char} {s rest : List Char} (helse : keyword? "else" (c :: s) = none)
    (hend : keyword? "end" (c :: s) = some rest) : branches (c :: s) = some ([], [], rest) := by
  simp [branches, helse, hend]

theorem branches_of_else {c : Char} {s rest : List Char} {found : List Char × List Char}
    (helse : keyword? "else" (c :: s) = some rest) (hrest : untilEnd rest = some found) :
    branches (c :: s) = some ([], found) := by
  simp [branches, helse, hrest]

theorem branches_endTag (rest : List Char) : branches (endTag ++ rest) = some ([], [], rest) :=
  branches_of_end (keyword?_endTag rest).1 (keyword?_endTag rest).2

theorem untilEnd_endTag (rest : List Char) : untilEnd (endTag ++ rest) = some ([], rest) :=
  untilEnd_of_end (keyword?_endTag rest).2

theorem branches_elseTag {rest : List Char} {found : List Char × List Char} (h : untilEnd rest = some found) :
    branches (elseTag ++ rest) = some ([], found) :=
  branches_of_else (keyword?_elseTag rest).1 h

theorem branches_elseTag_of_none {rest : List Char} (h : untilEnd rest = none) :
    branches (elseTag ++ rest) = behind elseTag (branches rest) := by
  obtain ⟨helse, hend, hif⟩ := keyword?_elseTag rest
  exact branches_tag (by decide) (by rw [← elseTag, helse, Option.bind_some, h]) hend hif

namespace Form

/-- **An if-block without another one inside is read as a whole**: its condition, its branches and nothing more. -/
theorem ifBlock?_guarded_of_flat {cond : List Char} {first : Form} (hf : (guarded cond first).WellFormed)
    (hflat : first.depth = 0) (rest : List Char) :
    ∃ read, tokens read = tokens cond ∧
      ifBlock? ((guarded cond first).source ++ rest) = some (read, first.source, [], rest) := by
  obtain ⟨hcond, hform, hfirst⟩ := hf
  obtain ⟨read, hread, hopen⟩ := ifOpening?_ifTag hcond hform (first.source ++ (endTag ++ rest))
  refine ⟨read, hread, ?_⟩
  simp only [source, List.append_assoc, ifBlock?, hopen, bind, Option.bind_some,
    branches_source_of_flat hfirst hflat, branches_endTag]
  simp [behind]

theorem ifBlock?_choice_of_flat {cond : List Char} {first otherwise : Form}
    (hf : (choice cond first otherwise).WellFormed) (hfirst : first.depth = 0) (hotherwise : otherwise.depth = 0)
    (rest : List Char) :
    ∃ read, tokens read = tokens cond ∧
      ifBlock? ((choice cond first otherwise).source ++ rest) =
        some (read, first.source, otherwise.source, rest) := by
  obtain ⟨hcond, hform, hf, hg⟩ := hf
  obtain ⟨read, hread, hopen⟩ := ifOpening?_ifTag hcond hform
    (first.source ++ (elseTag ++ (otherwise.source ++ (endTag ++ rest))))
  refine ⟨read, hread, ?_⟩
  have hend : untilEnd (otherwise.source ++ (endTag ++ rest)) = some (otherwise.source, rest) := by
    rw [untilEnd_source_of_flat hg hotherwise, untilEnd_endTag]
    simp [behind]
  simp only [source, List.append_assoc, ifBlock?, hopen, bind, Option.bind_some,
    branches_source_of_flat hf hfirst, branches_elseTag hend]
  simp [behind]

/-- An if-block with another one inside is not read as a block. -/
theorem ifBlock?_guarded_of_nested {cond : List Char} {first : Form} (hf : (guarded cond first).WellFormed)
    (hnested : 0 < first.depth) (rest : List Char) : ifBlock? ((guarded cond first).source ++ rest) = none := by
  obtain ⟨hcond, hform, hfirst⟩ := hf
  obtain ⟨read, -, hopen⟩ := ifOpening?_ifTag hcond hform (first.source ++ (endTag ++ rest))
  simp only [source, List.append_assoc, ifBlock?, hopen, bind, Option.bind_some,
    branches_source_of_nested hfirst hnested]
  rfl

theorem ifBlock?_choice_of_nested {cond : List Char} {first otherwise : Form}
    (hf : (choice cond first otherwise).WellFormed) (hnested : 0 < max first.depth otherwise.depth)
    (rest : List Char) : ifBlock? ((choice cond first otherwise).source ++ rest) = none := by
  obtain ⟨hcond, hform, hf, hg⟩ := hf
  obtain ⟨read, -, hopen⟩ := ifOpening?_ifTag hcond hform
    (first.source ++ (elseTag ++ (otherwise.source ++ (endTag ++ rest))))
  have hbranches : branches (first.source ++ (elseTag ++ (otherwise.source ++ (endTag ++ rest)))) = none := by
    by_cases hfirst : first.depth = 0
    · have hotherwise : 0 < otherwise.depth := by simpa [hfirst] using hnested
      rw [branches_source_of_flat hf hfirst,
        branches_elseTag_of_none (untilEnd_source_of_nested hg hotherwise _),
        branches_source_of_nested hg hotherwise]
      rfl
    · exact branches_source_of_nested hf (by omega) _
  simp only [source, List.append_assoc, ifBlock?, hopen, bind, Option.bind_some, hbranches]
  rfl

end Form

theorem ifBlock?_eq_none_of_ifOpening? {s : List Char} (h : ifOpening? s = none) : ifBlock? s = none := by
  simp [ifBlock?, h]

theorem condition?_congr {env : Environment} {s t : List Char} (h : tokens s = tokens t) :
    condition? env s = condition? env t := by
  simp [condition?, h]

theorem resolveConditionals_cons {env : Environment} {c : Char} {s : List Char} (h : ifBlock? (c :: s) = none) :
    resolveConditionals env 0 (c :: s) = c :: resolveConditionals env 0 s := by
  simp [resolveConditionals, h]

theorem resolveConditionals_skip (env : Environment) (passed rest : List Char) :
    resolveConditionals env passed.length (passed ++ rest) = resolveConditionals env 0 rest := by
  induction passed with
  | nil => rfl
  | cons c s ih => simpa [resolveConditionals] using ih

theorem copies_resolveConditionals (env : Environment) : Copies (resolveConditionals env 0) List.cons :=
  fun _ _ h => resolveConditionals_cons (ifBlock?_of_not_opens h)

/-- A block that is read as a whole is replaced by the branch that its condition chooses. -/
theorem resolveConditionals_block {env : Environment} {block rest cond first otherwise : List Char} {b : Bool}
    (hblock : ifBlock? (block ++ rest) = some (cond, first, otherwise, rest)) (hcond : condition? env cond = some b)
    (hne : block ≠ []) :
    resolveConditionals env 0 (block ++ rest) =
      (if b then first else otherwise) ++ resolveConditionals env 0 rest := by
  cases block with
  | nil => exact absurd rfl hne
  | cons c s =>
      rw [List.cons_append] at hblock ⊢
      have hlength : (s ++ rest).length - rest.length = s.length := by simp
      simp only [resolveConditionals, hblock, hcond, hlength, resolveConditionals_skip]

/-- A tag that opens no block is kept. -/
theorem resolveConditionals_tag {env : Environment} {body : List Char} (hbody : ∀ c ∈ body, isBrace c = false)
    {rest : List Char} (h : ifBlock? (tag body ++ rest) = none) :
    resolveConditionals env 0 (tag body ++ rest) = tag body ++ resolveConditionals env 0 rest := by
  rw [(copies_resolveConditionals env).tag hbody rest (resolveConditionals_cons h), List.foldr_cons_eq_append']

theorem resolveConditionals_elseTag (env : Environment) (rest : List Char) :
    resolveConditionals env 0 (elseTag ++ rest) = elseTag ++ resolveConditionals env 0 rest :=
  resolveConditionals_tag (by decide) (ifBlock?_eq_none_of_ifOpening? (by
    rw [ifOpening?, braced?_tag (by decide)]
    rfl))

theorem resolveConditionals_endTag (env : Environment) (rest : List Char) :
    resolveConditionals env 0 (endTag ++ rest) = endTag ++ resolveConditionals env 0 rest :=
  resolveConditionals_tag (by decide) (ifBlock?_eq_none_of_ifOpening? (by
    rw [ifOpening?, braced?_tag (by decide)]
    rfl))

/-! ## Contraction -/

namespace Form

/-- The template with every if-block that has none inside replaced by the branch that its condition chooses. -/
def contract (env : Environment) : Form → Form
  | text s => text s
  | action body => action body
  | guarded cond first =>
    if first.depth = 0 then if condition? env cond = some true then first else text []
    else guarded cond (first.contract env)
  | choice cond first otherwise =>
    if max first.depth otherwise.depth = 0 then if condition? env cond = some true then first else otherwise
    else choice cond (first.contract env) (otherwise.contract env)
  | joined a b => joined (a.contract env) (b.contract env)

variable (env : Environment)

/-- Contraction takes one level of nesting away. -/
theorem depth_contract (f : Form) : (f.contract env).depth = f.depth - 1 := by
  induction f with
  | text s => rfl
  | action body => rfl
  | guarded cond first ih =>
      by_cases h : first.depth = 0
      · simp only [contract, h, if_true, depth]
        split <;> simp [h, depth]
      · simp only [contract, h, if_false, depth, ih]
        omega
  | choice cond first otherwise ih1 ih2 =>
      by_cases h : max first.depth otherwise.depth = 0
      · simp only [contract, h, if_true, depth]
        split <;> omega
      · simp only [contract, h, if_false, depth, ih1, ih2]
        omega
  | joined a b ih1 ih2 =>
      simp only [contract, depth, ih1, ih2]
      omega

theorem wellFormed_contract {f : Form} (hf : f.WellFormed) : (f.contract env).WellFormed := by
  induction f with
  | text s => exact hf
  | action body => exact hf
  | guarded cond first ih =>
      simp only [contract]
      split
      · split
        · exact hf.2.2
        · simp [WellFormed]
      · exact ⟨hf.1, hf.2.1, ih hf.2.2⟩
  | choice cond first otherwise ih1 ih2 =>
      simp only [contract]
      split
      · split
        · exact hf.2.2.1
        · exact hf.2.2.2
      · exact ⟨hf.1, hf.2.1, ih1 hf.2.2.1, ih2 hf.2.2.2⟩
  | joined a b ih1 ih2 => exact ⟨ih1 hf.1, ih2 hf.2⟩

/-- Contraction does not change what a template stands for. -/
theorem meaning_contract (image : String → List Char) (f : Form) :
    (f.contract env).meaning env image = f.meaning env image := by
  induction f with
  | text s => rfl
  | action body => rfl
  | guarded cond first ih =>
      simp only [contract]
      split
      · simp only [meaning]
        split <;> rfl
      · simp only [meaning, ih]
  | choice cond first otherwise ih1 ih2 =>
      simp only [contract]
      split
      · simp only [meaning]
        split <;> rfl
      · simp only [meaning, ih1, ih2]
  | joined a b ih1 ih2 => simp only [contract, meaning, ih1, ih2]

/-- **The first half of a pass contracts the tree.** -/
theorem resolveConditionals_source {f : Form} (hf : f.WellFormed) (rest : List Char) :
    resolveConditionals env 0 (f.source ++ rest) =
      (f.contract env).source ++ resolveConditionals env 0 rest := by
  induction f generalizing rest with
  | text s =>
      rw [source, (copies_resolveConditionals env).append (not_mem_of_isBrace hf), List.foldr_cons_eq_append']
      rfl
  | action body =>
      obtain ⟨-, -, -, hopen⟩ := action_tag hf.1 hf.2 rest
      exact resolveConditionals_tag hf.1 (ifBlock?_eq_none_of_ifOpening? hopen)
  | guarded cond first ih =>
      obtain ⟨b, hb⟩ := Option.isSome_iff_exists.mp (condition?_isSome_iff.mpr hf.2.1 : (condition? env cond).isSome)
      by_cases hflat : first.depth = 0
      · obtain ⟨read, hread, hblock⟩ := ifBlock?_guarded_of_flat hf hflat rest
        rw [resolveConditionals_block hblock (condition?_congr hread ▸ hb) (by simp [source, ifTag, tag])]
        simp only [contract, hflat, if_true, hb]
        cases b <;> simp [source]
      · have hblock := ifBlock?_guarded_of_nested hf (Nat.pos_of_ne_zero hflat) rest
        simp only [source, List.append_assoc] at hblock
        simp only [contract, hflat, if_false, source, List.append_assoc]
        rw [ifTag, resolveConditionals_tag (isBrace_of_mem_ifTag hf.1) hblock, ih hf.2.2,
          resolveConditionals_endTag]
  | choice cond first otherwise ih1 ih2 =>
      obtain ⟨b, hb⟩ := Option.isSome_iff_exists.mp (condition?_isSome_iff.mpr hf.2.1 : (condition? env cond).isSome)
      by_cases hflat : max first.depth otherwise.depth = 0
      · obtain ⟨read, hread, hblock⟩ := ifBlock?_choice_of_flat hf (by omega) (by omega) rest
        rw [resolveConditionals_block hblock (condition?_congr hread ▸ hb) (by simp [source, ifTag, tag])]
        simp only [contract, hflat, if_true, hb]
        cases b <;> simp
      · have hblock := ifBlock?_choice_of_nested hf (Nat.pos_of_ne_zero hflat) rest
        simp only [source, List.append_assoc] at hblock
        simp only [contract, hflat, if_false, source, List.append_assoc]
        rw [ifTag, resolveConditionals_tag (isBrace_of_mem_ifTag hf.1) hblock, ih1 hf.2.2.1,
          resolveConditionals_elseTag, ih2 hf.2.2.2, resolveConditionals_endTag]
  | joined a b ih1 ih2 =>
      rw [source, List.append_assoc, ih1 hf.1, ih2 hf.2, contract, source, List.append_assoc]

end Form

/-! ## Filling in -/

theorem action?_congr {env : Environment} {s t : List Char} (h : tokens s = tokens t) :
    action? env s = action? env t := by
  simp [action?, h]

/-- The words of a tag that is part of an if-block are those of no action. -/
theorem action?_eq_none_of_tokens {env : Environment} {body : List Char} {words : List Token}
    (h : tokens body = words) (hwords : ¬ ActionForm words) : action? env body = none := by
  rw [← Option.not_isSome_iff_eq_none, action?_isSome_iff, h]
  exact hwords

section

variable (env : Environment) (encode : String → String)

theorem resolveActions_skip (passed rest : List Char) :
    resolveActions env encode passed.length (passed ++ rest) = resolveActions env encode 0 rest := by
  induction passed with
  | nil => rfl
  | cons c s ih => simpa [resolveActions] using ih

theorem copies_resolveActions : Copies (resolveActions env encode 0) List.cons := by
  intro c s h
  simp [resolveActions, braced?_of_not_opens h]

/-- What is read as double braces is replaced by the text of its action, and kept where it has none. -/
theorem resolveActions_block {block rest inner : List Char} (hblock : braced? (block ++ rest) = some (inner, rest))
    (hlength : block.length = inner.length + 4) :
    resolveActions env encode 0 (block ++ rest) =
      ((action? env (trimmed inner)).elim block fun text => (encode text).toList.map hold) ++
        resolveActions env encode 0 rest := by
  cases block with
  | nil => simp at hlength
  | cons c s =>
      have htake : (c :: (s ++ rest)).take (inner.length + 4) = c :: s := by
        rw [← hlength, ← List.cons_append, List.take_left]
      have hskip : inner.length + 3 = s.length := by simpa using hlength.symm
      rw [List.cons_append] at hblock ⊢
      simp only [resolveActions, hblock, htake, hskip, resolveActions_skip]
      cases action? env (trimmed inner) <;> rfl

theorem resolveActions_tag {body : List Char} (hbody : ∀ c ∈ body, isBrace c = false) (rest : List Char) :
    resolveActions env encode 0 (tag body ++ rest) =
      ((action? env body).elim (tag body) fun text => (encode text).toList.map hold) ++
        resolveActions env encode 0 rest := by
  rw [resolveActions_block env encode (braced?_tag hbody rest) (by simp [tag]),
    action?_congr (tokens_trimmed body)]

end

namespace Form

/-- The template with every action replaced by the text that `image` writes for its value. -/
def fill (env : Environment) (image : String → List Char) : Form → Form
  | text s => text s
  | action body => text ((action? env body).elim [] image)
  | guarded cond first => guarded cond (first.fill env image)
  | choice cond first otherwise => choice cond (first.fill env image) (otherwise.fill env image)
  | joined a b => joined (a.fill env image) (b.fill env image)

/-- A template without actions. -/
def Filled (f : Form) : Prop :=
  f.EachAction fun _ => False

variable (env : Environment) (image : String → List Char)

theorem filled_fill (f : Form) : (f.fill env image).Filled := by
  induction f with
  | text s => trivial
  | action body => trivial
  | guarded cond first ih => exact ih
  | choice cond first otherwise ih1 ih2 => exact ⟨ih1, ih2⟩
  | joined a b ih1 ih2 => exact ⟨ih1, ih2⟩

theorem depth_fill (f : Form) : (f.fill env image).depth = f.depth := by
  induction f with
  | text s => rfl
  | action body => rfl
  | guarded cond first ih => simp only [fill, depth, ih]
  | choice cond first otherwise ih1 ih2 => simp only [fill, depth, ih1, ih2]
  | joined a b ih1 ih2 => simp only [fill, depth, ih1, ih2]

/-- Filling in does not change what a template stands for. -/
theorem meaning_fill (f : Form) : (f.fill env image).meaning env image = f.meaning env image := by
  induction f with
  | text s => rfl
  | action body => rfl
  | guarded cond first ih => simp only [fill, meaning, ih]
  | choice cond first otherwise ih1 ih2 => simp only [fill, meaning, ih1, ih2]
  | joined a b ih1 ih2 => simp only [fill, meaning, ih1, ih2]

theorem wellFormed_fill (himage : ∀ s, ∀ c ∈ image s, isBrace c = false) {f : Form} (hf : f.WellFormed) :
    (f.fill env image).WellFormed := by
  induction f with
  | text s => exact hf
  | action body =>
      simp only [fill, WellFormed]
      cases action? env body with
      | none => simp
      | some text => exact himage text
  | guarded cond first ih => exact ⟨hf.1, hf.2.1, ih hf.2.2⟩
  | choice cond first otherwise ih1 ih2 => exact ⟨hf.1, hf.2.1, ih1 hf.2.2.1, ih2 hf.2.2.2⟩
  | joined a b ih1 ih2 => exact ⟨ih1 hf.1, ih2 hf.2⟩

/-- **The second half of a pass fills the tree in.** -/
theorem resolveActions_source (encode : String → String) {f : Form} (hf : f.WellFormed) (rest : List Char) :
    resolveActions env encode 0 (f.source ++ rest) =
      (f.fill env fun text => (encode text).toList.map hold).source ++ resolveActions env encode 0 rest := by
  have hkept : ∀ {body words} (rest), (∀ c ∈ body, isBrace c = false) → tokens body = words → ¬ ActionForm words →
      resolveActions env encode 0 (tag body ++ rest) = tag body ++ resolveActions env encode 0 rest := by
    intro body words rest hbody hwords hform
    rw [resolveActions_tag env encode hbody, action?_eq_none_of_tokens hwords hform]
    rfl
  have helse : ∀ rest, resolveActions env encode 0 (elseTag ++ rest) =
      elseTag ++ resolveActions env encode 0 rest :=
    fun rest => hkept rest (by decide) rfl fun h => h.not_keyword.2.1 rfl
  have hend : ∀ rest, resolveActions env encode 0 (endTag ++ rest) =
      endTag ++ resolveActions env encode 0 rest :=
    fun rest => hkept rest (by decide) rfl fun h => h.not_keyword.2.2.1 rfl
  have hif : ∀ {cond} (rest), (∀ c ∈ cond, isBrace c = false) →
      resolveActions env encode 0 (ifTag cond ++ rest) = ifTag cond ++ resolveActions env encode 0 rest :=
    fun rest hcond => hkept rest (isBrace_of_mem_ifTag hcond) (tokens_ifTag _) fun h => h.not_keyword.2.2.2 rfl
  induction f generalizing rest with
  | text s =>
      rw [source, (copies_resolveActions env encode).append (not_mem_of_isBrace hf), List.foldr_cons_eq_append']
      rfl
  | action body =>
      obtain ⟨text, htext⟩ := Option.isSome_iff_exists.mp (action?_isSome_iff.mpr hf.2 : (action? env body).isSome)
      rw [source, resolveActions_tag env encode hf.1, fill, htext]
      rfl
  | guarded cond first ih =>
      simp only [source, fill, List.append_assoc, hif _ hf.1, ih hf.2.2, hend]
  | choice cond first otherwise ih1 ih2 =>
      simp only [source, fill, List.append_assoc, hif _ hf.1, ih1 hf.2.2.1, helse, ih2 hf.2.2.2, hend]
  | joined a b ih1 ih2 =>
      simp only [source, fill, List.append_assoc, ih1 hf.1, ih2 hf.2]

end Form

end MetaSearch.Template
