import Mathlib.Data.List.TakeWhile
import MetaSearch.Text.Blank

/-!
# Trimmed texts

Trimming takes nothing from a text that neither begins nor ends with a character of the class (`trimWhile_of_edges`), so
what is trimmed once stays as it is (`strip_strip`).
-/

namespace MetaSearch.Text

variable {p : Char → Bool} {s : List Char}

/-- A text that neither begins nor ends with a character of a class has none of it to lose. -/
theorem trimWhile_of_edges (hhead : ∀ c, s.head? = some c → p c = false)
    (hlast : ∀ c, s.getLast? = some c → p c = false) : trimWhile p s = s := by
  have hfront : s.dropWhile p = s := by
    cases s with
    | nil => rfl
    | cons c s => rw [List.dropWhile_cons_of_neg (by simp [hhead c rfl])]
  have hback : s.reverse.dropWhile p = s.reverse := by
    cases hs : s.reverse with
    | nil => rfl
    | cons c r =>
        have hc : p c = false := hlast c (by rw [← List.head?_reverse, hs]; rfl)
        rw [List.dropWhile_cons_of_neg (by simp [hc])]
  rw [trimWhile, dropEndWhile, hfront, hback, List.reverse_reverse]

/-- A text that neither begins nor ends with a blank is stripped already. -/
theorem strip_of_edges {s : String} (hhead : ∀ c, s.toList.head? = some c → isBlank c = false)
    (hlast : ∀ c, s.toList.getLast? = some c → isBlank c = false) : strip s = s := by
  rw [strip, trimWhile_of_edges hhead hlast, String.ofList_toList]

/-- What is left of a text begins with no character of the class. -/
theorem head?_dropWhile {c : Char} (h : (s.dropWhile p).head? = some c) : p c = false := by
  have hfirst := List.head?_dropWhile_not p s
  rw [h] at hfirst
  exact hfirst

/-- What is left of a text ends with no character of the class. -/
theorem getLast?_trimWhile {c : Char} (h : (trimWhile p s).getLast? = some c) : p c = false := by
  rw [trimWhile, dropEndWhile, List.getLast?_reverse] at h
  exact head?_dropWhile h

/-- A text that is trimmed has nothing left to trim. -/
theorem trimWhile_trimWhile (p : Char → Bool) (s : List Char) : trimWhile p (trimWhile p s) = trimWhile p s := by
  refine trimWhile_of_edges (fun c hc => ?_) fun c => getLast?_trimWhile
  -- trimming the end leaves a beginning of the text, with the same first character
  have hprefix : trimWhile p s <+: s.dropWhile p := by
    rw [← List.reverse_suffix, trimWhile, dropEndWhile, List.reverse_reverse]
    exact List.dropWhile_suffix p
  obtain ⟨rest, hrest⟩ := hprefix
  refine head?_dropWhile (s := s) ?_
  rw [← hrest, List.head?_append, hc]
  rfl

/-- A stripped text has no blanks to lose. -/
@[simp] theorem strip_strip (s : String) : strip (strip s) = strip s := by
  rw [strip, strip, String.toList_ofList, trimWhile_trimWhile]

end MetaSearch.Text
