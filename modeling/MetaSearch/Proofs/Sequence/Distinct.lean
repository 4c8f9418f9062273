import Mathlib.Data.List.Nodup
import Mathlib.Data.List.Perm.Subperm

/-!
# Lists without repetition

What is left of a list when every item counts once, at its first place, and what a list without repetition shares with
a part of it.
-/

namespace MetaSearch

variable {α : Type}

/-- What is left of a list when every item counts once. -/
theorem nodup_eraseDups [BEq α] [LawfulBEq α] : ∀ xs : List α, xs.eraseDups.Nodup
  | [] => by simp
  | x :: xs => by
      rw [List.eraseDups_cons, List.nodup_cons]
      refine ⟨?_, nodup_eraseDups _⟩
      rw [List.mem_eraseDups]
      simp
termination_by xs => xs.length
decreasing_by
  have hlength := List.length_filter_le (fun y => !y == x) xs
  simp only [List.length_cons]
  omega

/-- What is left of a list stands in it in the same order. -/
theorem eraseDups_sublist [BEq α] : ∀ xs : List α, xs.eraseDups.Sublist xs
  | [] => by simp
  | x :: xs => by
      rw [List.eraseDups_cons]
      exact ((eraseDups_sublist _).trans List.filter_sublist).cons_cons x
termination_by xs => xs.length
decreasing_by
  have hlength := List.length_filter_le (fun y => !y == x) xs
  simp only [List.length_cons]
  omega

/-- Items may be left out before or after each of them counts once. -/
theorem eraseDups_filter [BEq α] [LawfulBEq α] (p : α → Bool) :
    ∀ xs : List α, (xs.filter p).eraseDups = xs.eraseDups.filter p
  | [] => by simp
  | x :: xs => by
      have hrest := eraseDups_filter p (xs.filter fun y => !y == x)
      rw [List.eraseDups_cons]
      by_cases hx : p x = true
      · rw [List.filter_cons_of_pos hx, List.filter_cons_of_pos hx, List.eraseDups_cons, ← hrest, List.filter_filter,
          List.filter_filter]
        simp only [Bool.and_comm]
      · -- what is left out of the rest with `x` is left out of it anyway
        have hsame : (xs.filter fun y => !y == x).filter p = xs.filter p := by
          rw [List.filter_filter]
          refine List.filter_congr fun y _ => ?_
          by_cases hy : y = x
          · simp [hy, hx]
          · simp [hy]
        rw [List.filter_cons_of_neg hx, List.filter_cons_of_neg hx, ← hrest, hsame]
termination_by xs => xs.length
decreasing_by
  have hlength := List.length_filter_le (fun y => !y == x) xs
  simp only [List.length_cons]
  omega

/-- A part of a list without repetition has all the items of a kind that it does not leave out. -/
theorem filter_eq_of_sublist {part whole : List α} (hpart : part.Sublist whole) (hwhole : whole.Nodup) {p : α → Bool}
    (h : ∀ x ∈ whole, p x = true → x ∈ part) : part.filter p = whole.filter p := by
  refine (hpart.filter p).eq_of_length_le ?_
  have hsubset : whole.filter p ⊆ part.filter p := by
    intro x hx
    obtain ⟨hmem, hp⟩ := List.mem_filter.mp hx
    exact List.mem_filter.mpr ⟨h x hmem hp, hp⟩
  exact ((hwhole.filter p).subperm hsubset).length_le

end MetaSearch
