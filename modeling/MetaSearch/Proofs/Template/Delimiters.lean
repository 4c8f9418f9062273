import MetaSearch.Proofs.Address.Segments
import MetaSearch.Proofs.Template.Found

/-!
# The delimiters of a rendered path

A template whose values are quoted has no delimiters of a web address but its own, whatever it is made of and however
often it is rewritten.  `delimiters` are those of a text, in their order.

* A pass over the if-blocks leaves out characters and does nothing else (`resolveConditionals_sublist`).
* A pass over the actions takes out an action and puts in a quoted value, which has no delimiters
  (`delimiters_resolveActions_sublist`).
* The characters that are kept for braces, and the braces, are no delimiters, so that nothing comes in when they are put
  out.
-/

namespace MetaSearch.Template

/-! ## Delimiters -/

/-- Whether a character parts a web address, or is a blank. -/
def isDelimiter (c : Char) : Bool :=
  c == '/' || c == '?' || c == '#' || c == '&' || c == '=' || c == ':' || c == '@' || c == '\\' || Text.isBlank c

/-- The delimiters of a text in their order. -/
def delimiters (s : List Char) : List Char :=
  s.filter isDelimiter

@[simp] theorem delimiters_append (s t : List Char) : delimiters (s ++ t) = delimiters s ++ delimiters t :=
  List.filter_append ..

theorem delimiters_sublist {s t : List Char} (h : s.Sublist t) : (delimiters s).Sublist (delimiters t) :=
  h.filter isDelimiter

/-- A plain character of a path is no delimiter. -/
theorem isDelimiter_of_isPlain {c : Char} (h : Reference.isPlain c = true) : isDelimiter c = false := by
  have hmark : ∀ mark : Char, Reference.isPlain mark = false → (c == mark) = false := by
    intro mark hmark
    rw [beq_eq_false_iff_ne]
    exact Reference.ne_of_isPlain h hmark
  simp only [isDelimiter, Reference.isBlank_of_isPlain h, Bool.or_false, Bool.or_eq_false_iff]
  refine ⟨⟨⟨⟨⟨⟨⟨?_, ?_⟩, ?_⟩, ?_⟩, ?_⟩, ?_⟩, ?_⟩, ?_⟩
  all_goals exact hmark _ (by decide)

/-- Putting out what is kept makes no delimiter and takes none away. -/
theorem delimiters_map_release (s : List Char) : delimiters (s.map release) = delimiters s := by
  induction s with
  | nil => rfl
  | cons c s ih =>
      have hfirst : delimiters [release c] = delimiters [c] := by
        by_cases hopen : c = heldOpen
        · subst hopen
          decide
        · by_cases hclose : c = heldClose
          · subst hclose
            decide
          · have hkept : release c = c := by simp [release, hopen, hclose]
            rw [hkept]
      change delimiters ([release c] ++ s.map release) = delimiters ([c] ++ s)
      rw [delimiters_append, delimiters_append, hfirst, ih]

/-- A quoted value, held or not, has no delimiters. -/
theorem delimiters_quote (value : String) : delimiters ((Percent.quote "+" value).toList.map hold) = [] := by
  refine List.filter_eq_nil_iff.mpr fun c hc => ?_
  obtain ⟨d, hd, rfl⟩ := List.mem_map.mp hc
  have hplain := Percent.isPlain_of_mem_quote hd
  have hkept : hold d = d := by
    have hopen : d ≠ '\x7b' := Reference.ne_of_isPlain hplain (by decide)
    have hclose : d ≠ '\x7d' := Reference.ne_of_isPlain hplain (by decide)
    simp [hold, hopen, hclose]
  rw [hkept, isDelimiter_of_isPlain hplain]
  decide

/-! ## Passes -/

section

variable (env : Environment)

variable {encode : String → String} (hencode : ∀ value, delimiters ((encode value).toList.map hold) = [])

include hencode

/-- **A pass over the actions brings no delimiter in**, where no encoded value has any. -/
theorem delimiters_resolveActions_sublist (s : List Char) :
    (delimiters (resolveActions env encode 0 s)).Sublist (delimiters s) := by
  refine resolveActions_induction (P := fun s image => (delimiters image).Sublist (delimiters s)) env encode
    List.Sublist.slnil ?_ ?_ s
  · intro part rest image ih
    rw [delimiters_append, delimiters_append]
    exact (List.Sublist.refl _).append ih
  · intro inner rest image text _ _ ih
    rw [delimiters_append, delimiters_append, hencode text]
    exact (List.nil_sublist _).append ih

/-- A pass brings no delimiter in. -/
theorem delimiters_rewrite_sublist (s : List Char) : (delimiters (rewrite env encode s)).Sublist (delimiters s) := by
  have hconditionals := delimiters_sublist (resolveConditionals_sublist env s)
  have hactions := delimiters_resolveActions_sublist env hencode (resolveConditionals env 0 s)
  exact hactions.trans hconditionals

/-- **However many passes are made, no delimiter comes in.** -/
theorem delimiters_settle_sublist (n : Nat) (s : List Char) :
    (delimiters (settle env encode n s)).Sublist (delimiters s) := by
  induction n generalizing s with
  | zero => exact List.Sublist.refl _
  | succ n ih =>
      have hpass := delimiters_rewrite_sublist env hencode s
      unfold settle
      dsimp only
      split
      · exact hpass
      · exact (ih _).trans hpass

end

/-- **A rendered path has no delimiters but those of its template**, in their order.  Whatever the values are and whatever
the template is, and after any number of passes, none is brought in by a value. -/
theorem delimiters_evaluate_sublist (env : Environment) (template : String) :
    (delimiters (evaluate env template (Percent.quote "+")).toList).Sublist (delimiters template.toList) ∧
      ∀ passes, (delimiters ((settle env (Percent.quote "+") passes template.toList).map release)).Sublist
        (delimiters template.toList) := by
  have hpasses : ∀ passes, (delimiters ((settle env (Percent.quote "+") passes template.toList).map release)).Sublist
      (delimiters template.toList) := by
    intro passes
    rw [delimiters_map_release]
    exact delimiters_settle_sublist env delimiters_quote passes template.toList
  refine ⟨?_, hpasses⟩
  unfold evaluate
  split
  · rw [String.toList_ofList]
    exact hpasses maxPasses
  · exact List.Sublist.refl _

end MetaSearch.Template
