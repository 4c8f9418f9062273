import MetaSearch.Proofs.Template.Found
import MetaSearch.Proofs.Template.Meaning

/-!
# Templates that have settled

Passes over a template come to an end.  What a pass takes out, an if-block or an action, opens with two braces, and what
it puts in opens none, because a branch stands behind those braces and the braces of a value are held.  So a pass that
changes anything leaves two opening braces less (`rewrite_shrinks`), and passes have either settled or used up two braces
each (`settle_fixed_or_shrinks`).

Where values are printed without braces, nothing has to be put out for what is held either, and a text that has settled
is what its own evaluation comes to: `evaluate_idempotent`.
-/

namespace MetaSearch.Template

/-- How many opening braces a text holds. -/
def openings (s : List Char) : Nat :=
  s.count '\x7b'

@[simp] theorem openings_append (s t : List Char) : openings (s ++ t) = openings s + openings t :=
  List.count_append ..

/-- Nothing that is held opens a brace. -/
theorem openings_held (s : List Char) : openings (s.map hold) = 0 := by
  refine List.count_eq_zero.mpr fun hmem => ?_
  obtain ⟨c, -, hc⟩ := List.mem_map.mp hmem
  have hbrace := isBrace_hold c
  rw [hc] at hbrace
  cases hbrace

section

variable (env : Environment) (encode : String → String)

/-! ## Each pass shrinks -/

/-- Two texts are one, or the second has at least two opening braces less. -/
def SameOrShrunk (s image : List Char) : Prop :=
  image = s ∨ openings image + 2 ≤ openings s

variable {env encode}

theorem SameOrShrunk.openings_le {s image : List Char} (h : SameOrShrunk s image) : openings image ≤ openings s := by
  rcases h with rfl | h <;> omega

/-- What stays in front of a text makes no difference. -/
theorem SameOrShrunk.append {rest image : List Char} (part : List Char) (h : SameOrShrunk rest image) :
    SameOrShrunk (part ++ rest) (part ++ image) := by
  rcases h with rfl | h
  · exact .inl rfl
  · refine .inr ?_
    rw [openings_append, openings_append]
    omega

/-- What takes the place of two opening braces and of what is behind them opens less. -/
theorem SameOrShrunk.replace {inside part rest image : List Char} (hpart : openings part ≤ openings inside)
    (h : SameOrShrunk rest image) : SameOrShrunk ('\x7b' :: '\x7b' :: inside ++ rest) (part ++ image) := by
  have hrest := h.openings_le
  have hblock : openings ('\x7b' :: '\x7b' :: inside) = openings inside + 2 := by simp [openings]
  refine .inr ?_
  rw [openings_append, openings_append, hblock]
  omega

theorem resolveConditionals_shrinks (s : List Char) : SameOrShrunk s (resolveConditionals env 0 s) := by
  refine resolveConditionals_induction env (.inl rfl) ?_ ?_ s
  · intro part rest image ih
    exact ih.append part
  · intro inside branch rest image hbranch ih
    exact ih.replace (hbranch.count_le '\x7b')

theorem resolveActions_shrinks (s : List Char) : SameOrShrunk s (resolveActions env encode 0 s) := by
  refine resolveActions_induction env encode (.inl rfl) ?_ ?_ s
  · intro part rest image ih
    exact ih.append part
  · intro inner rest image text _ _ ih
    refine ih.replace ?_
    rw [openings_held]
    exact Nat.zero_le _

/-- **A pass that changes a text leaves at least two opening braces less.** -/
theorem rewrite_shrinks (s : List Char) : SameOrShrunk s (rewrite env encode s) := by
  have hconditionals : SameOrShrunk s (resolveConditionals env 0 s) := resolveConditionals_shrinks s
  have hactions : SameOrShrunk (resolveConditionals env 0 s) (rewrite env encode s) := resolveActions_shrinks _
  rcases hconditionals with heq | hless
  · rwa [heq] at hactions
  · have hle := hactions.openings_le
    exact .inr (by omega)

/-! ## Passes settle -/

/-- **Passes have settled, or each of them has used up two braces.** -/
theorem settle_fixed_or_shrinks (n : Nat) (s : List Char) :
    Function.IsFixedPt (rewrite env encode) (settle env encode n s) ∨
      openings (settle env encode n s) + 2 * n ≤ openings s := by
  induction n generalizing s with
  | zero => exact .inr (Nat.le_refl _)
  | succ n ih =>
      by_cases hfix : rewrite env encode s = s
      · refine .inl ?_
        simp only [settle, hfix, if_true]
        exact hfix
      · have hpass : SameOrShrunk s (rewrite env encode s) := rewrite_shrinks s
        have hless := hpass.resolve_left hfix
        simp only [settle, hfix, if_false]
        rcases ih (rewrite env encode s) with hfixed | hshrunk
        · exact .inl hfixed
        · exact .inr (by omega)

/-- A text with no more braces than passes can use up settles. -/
theorem settle_isFixedPt {n : Nat} {s : List Char} (h : openings s ≤ 2 * n) :
    Function.IsFixedPt (rewrite env encode) (settle env encode n s) := by
  rcases settle_fixed_or_shrinks n s with hfixed | hshrunk
  · exact hfixed
  · -- all braces are used up, so that another pass finds none to take out
    exact (rewrite_shrinks (settle env encode n s)).resolve_right (by omega)

/-- A text that has settled stays. -/
theorem settle_of_isFixedPt {s : List Char} (h : Function.IsFixedPt (rewrite env encode) s) (n : Nat) :
    settle env encode n s = s := by
  rw [settle_eq_iterate]
  exact Function.iterate_fixed h n

end

/-! ## Nothing is held -/

/-- A character that is neither a brace nor kept for one. -/
def IsOrdinary (c : Char) : Prop :=
  isBrace c = false ∧ c ≠ heldOpen ∧ c ≠ heldClose

/-- The values that an environment knows are printed without braces and without the characters that are kept for
them. -/
def RendersOrdinary (env : Environment) : Prop :=
  ∀ path, ∀ c ∈ (render (env.resolve path)).toList, IsOrdinary c

theorem hold_of_isOrdinary {c : Char} (h : IsOrdinary c) : hold c = c := by
  obtain ⟨hopen, hclose⟩ : c ≠ '\x7b' ∧ c ≠ '\x7d' := by simpa [isBrace] using h.1
  simp [hold, hopen, hclose]

variable {env : Environment}

/-- A pass over values without braces holds nothing. -/
theorem unheld_rewrite (henv : RendersOrdinary env) {s : List Char} (hs : Unheld s) : Unheld (rewrite env id s) := by
  have hblocks : Unheld (resolveConditionals env 0 s) :=
    fun c hc => hs c ((resolveConditionals_sublist env s).mem hc)
  refine resolveActions_induction (P := fun s image => Unheld s → Unheld image) env id id ?_ ?_ _ hblocks
  · intro part rest image ih hwhole c hc
    rcases List.mem_append.mp hc with hc | hc
    · exact hwhole c (List.mem_append_left rest hc)
    · exact ih (fun d hd => hwhole d (List.mem_append_right part hd)) c hc
  · intro inner rest image text hinner htext ih hwhole c hc
    rcases List.mem_append.mp hc with hc | hc
    · have hordinary : ∀ d ∈ trimmed inner, IsOrdinary d := by
        intro d hd
        have hmem := mem_of_mem_trimmed hd
        exact ⟨hinner d hmem, hwhole d (List.mem_append_left rest (by simp [enclosed, hmem]))⟩
      obtain ⟨d, hd, rfl⟩ := List.mem_map.mp hc
      have htextual := action?_all henv (by unfold IsOrdinary; decide) hordinary htext d hd
      rw [hold_of_isOrdinary htextual]
      exact htextual.2
    · exact ih (fun d hd => hwhole d (List.mem_append_right _ hd)) c hc

theorem unheld_settle (henv : RendersOrdinary env) (n : Nat) {s : List Char} (hs : Unheld s) :
    Unheld (settle env id n s) := by
  rw [settle_eq_iterate]
  induction n with
  | zero => exact hs
  | succ n ih =>
      rw [Function.iterate_succ_apply']
      exact unheld_rewrite henv ih

/-- Without anything held, a template evaluates to what its passes come to. -/
theorem evaluate_eq_settle (henv : RendersOrdinary env) {template : String} (hunheld : Unheld template.toList)
    (hbraces : Text.contains template "\x7b\x7b" = true) :
    evaluate env template = String.ofList (settle env id maxPasses template.toList) := by
  rw [evaluate, if_pos hbraces, map_release_of_unheld (unheld_settle henv maxPasses hunheld)]

/-- **Evaluating is done once.**  With values that are printed without braces, a template of at most a hundred opening
braces, well formed or not, has settled after the greatest number of passes, and what it evaluates to evaluates to
itself. -/
theorem evaluate_idempotent (henv : RendersOrdinary env) {template : String}
    (hopenings : template.toList.count '\x7b' ≤ 100) (hunheld : Unheld template.toList) :
    Function.IsFixedPt (rewrite env id) (settle env id maxPasses template.toList) ∧
      evaluate env (evaluate env template) = evaluate env template := by
  have hfixed : Function.IsFixedPt (rewrite env id) (settle env id maxPasses template.toList) :=
    settle_isFixedPt hopenings
  refine ⟨hfixed, ?_⟩
  by_cases hbraces : Text.contains template "\x7b\x7b" = true
  · rw [evaluate_eq_settle henv hunheld hbraces]
    by_cases hagain : Text.contains (String.ofList (settle env id maxPasses template.toList)) "\x7b\x7b" = true
    · have hsettled := unheld_settle henv maxPasses hunheld
      rw [evaluate_eq_settle henv (by rwa [String.toList_ofList]) hagain, String.toList_ofList,
        settle_of_isFixedPt hfixed]
    · rw [evaluate, if_neg hagain]
  · have hplain : evaluate env template = template := by rw [evaluate, if_neg hbraces]
    rw [hplain, hplain]

/-- A template whose action is put together by an if-block in it, before something that only looks like an action. -/
def assembledTemplate : String :=
  "\x7b\x7b\x7b if .Keywords \x7d\x7d\x7b .Keywords \x7d\x7d\x7b\x7b end \x7d\x7d \x7b\x7b else \x7d"

/-- What a pass puts together is evaluated, what looks like an action stays, and all is done at once. -/
theorem evaluate_idempotent_assembled :
    evaluate ⟨[("Keywords", .text "dune")]⟩ assembledTemplate = "dune \x7b\x7b else \x7d" ∧
      Function.IsFixedPt (rewrite ⟨[("Keywords", .text "dune")]⟩ id)
        (settle ⟨[("Keywords", .text "dune")]⟩ id maxPasses assembledTemplate.toList) ∧
      evaluate ⟨[("Keywords", .text "dune")]⟩ (evaluate ⟨[("Keywords", .text "dune")]⟩ assembledTemplate) =
        evaluate ⟨[("Keywords", .text "dune")]⟩ assembledTemplate := by
  have hvalues : RendersOrdinary ⟨[("Keywords", .text "dune")]⟩ :=
    render_resolve_of_texts [("Keywords", "dune")] (by unfold IsOrdinary; decide)
  have hunheld : Unheld assembledTemplate.toList := by
    unfold Unheld
    decide +kernel
  exact ⟨by decide +kernel, evaluate_idempotent hvalues (by decide +kernel) hunheld⟩

end MetaSearch.Template
