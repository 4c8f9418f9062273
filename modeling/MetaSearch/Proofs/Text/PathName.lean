import MetaSearch.Proofs.Text.Parts
import MetaSearch.Text.PathName

/-!
# Path names that are written out

The written form of a path has the root and the parts of the path (`root_normal`), so that writing it out again changes
nothing (`normal_normal`), and it starts from somebody's home exactly where the path does.

* `normal_of_ofText`: a path that was read from a text is its own written form.
* `isFromHome_of_ofText`: where the home that `~` stood for is from the root, no home is left in what was read.
-/

namespace MetaSearch

namespace Text

/-- Nothing between two marks holds one. -/
theorem not_mem_of_mem_splitOn {mark : Char} {s p : List Char} (h : p ∈ splitOn [mark] s) : mark ∉ p := by
  have hopen : ∀ (s part : List Char), mark ∉ part → ∀ p ∈ splitFrom [mark] 0 part s, mark ∉ p := by
    intro s
    induction s with
    | nil =>
        intro part hpart p hp
        rw [splitFrom, List.mem_singleton] at hp
        rwa [hp, List.mem_reverse]
    | cons c s ih =>
        intro part hpart p hp
        by_cases hc : mark = c
        · subst hc
          have hsplit : splitFrom [mark] 0 part (mark :: s) = part.reverse :: splitFrom [mark] 0 [] s := by
            simp [splitFrom, begins, after?]
          rw [hsplit] at hp
          rcases List.mem_cons.mp hp with rfl | hp
          · rwa [List.mem_reverse]
          · exact ih [] List.not_mem_nil p hp
        · have hsplit : splitFrom [mark] 0 part (c :: s) = splitFrom [mark] 0 (c :: part) s := by
            simp [splitFrom, begins, after?, hc]
          rw [hsplit] at hp
          exact ih (c :: part) (by simp [hc, hpart]) p hp
  exact hopen s [] List.not_mem_nil p h

/-- Parts without a mark that are joined by it are found again. -/
theorem splitOn_joinWith {mark : Char} {part : List Char} {parts : List (List Char)}
    (h : ∀ p ∈ part :: parts, mark ∉ p) : splitOn [mark] (joinWith [mark] (part :: parts)) = part :: parts := by
  induction parts generalizing part with
  | nil => exact splitOn_of_not_mem (h part List.mem_cons_self)
  | cons next rest ih =>
      obtain ⟨hpart, hrest⟩ := List.forall_mem_cons.mp h
      rw [joinWith, List.append_assoc, List.singleton_append, splitOn_append, splitOn_of_not_mem hpart, ih hrest]
      · rfl
      · exact List.cons_ne_nil next rest

end Text

namespace PathName

open Text

/-- A part of a path that leads anywhere. -/
structure IsPart (p : List Char) : Prop where
  ne_nil : p ≠ []
  ne_dot : p ≠ ['.']
  slash : '/' ∉ p

theorem isPart_of_mem_parts {s p : List Char} (h : p ∈ parts s) : IsPart p := by
  obtain ⟨hmem, hp⟩ := List.mem_filter.mp h
  rw [Bool.and_eq_true_iff, bne_iff_ne, bne_iff_ne] at hp
  exact ⟨hp.1, hp.2, not_mem_of_mem_splitOn hmem⟩

theorem parts_slash (s : List Char) : parts ('/' :: s) = parts s := by
  have hsplit : splitOn ['/'] ('/' :: s) = [] :: splitOn ['/'] s := splitOn_append '/' [] s
  rw [parts, hsplit, List.filter_cons_of_neg (by decide), parts]

/-- Parts that are joined by slashes are found again. -/
theorem parts_joinWith {ps : List (List Char)} (h : ∀ p ∈ ps, IsPart p) : parts (joinWith ['/'] ps) = ps := by
  cases ps with
  | nil => rfl
  | cons p ps =>
      rw [parts, splitOn_joinWith fun p hp => (h p hp).slash, List.filter_eq_self]
      exact fun p hp => by simp [(h p hp).ne_nil, (h p hp).ne_dot]

/-- Joined parts do not begin with a slash. -/
theorem head?_joinWith {ps : List (List Char)} (h : ∀ p ∈ ps, IsPart p) : (joinWith ['/'] ps).head? ≠ some '/' := by
  cases ps with
  | nil => exact nofun
  | cons p ps =>
      obtain ⟨hne, -, hslash⟩ := h p List.mem_cons_self
      obtain ⟨c, rest, rfl⟩ := List.exists_cons_of_ne_nil hne
      have hc : c ≠ '/' := fun heq => hslash (heq ▸ List.mem_cons_self)
      cases ps <;> simpa [joinWith] using hc

/-- The root and the parts of a path. -/
def written (s : List Char) : List Char :=
  root s ++ joinWith ['/'] (parts s)

theorem root_of_head? {s : List Char} (h : s.head? ≠ some '/') : root s = [] := by
  rw [root.eq_def]
  split <;> first | rfl | exact absurd rfl h

/-- A path is from where one is or from one of two roots. -/
theorem root_cases (s : List Char) : root s = [] ∨ root s = ['/'] ∨ root s = ['/', '/'] := by
  rw [root.eq_def]
  split <;> simp

/-- A root stays a root in front of what does not begin with a slash. -/
theorem root_root_append (s : List Char) {rest : List Char} (h : rest.head? ≠ some '/') :
    root (root s ++ rest) = root s := by
  rcases root_cases s with hroot | hroot | hroot
  · rw [hroot]
    exact root_of_head? h
  · rw [hroot]
    cases rest with
    | nil => rfl
    | cons c rest =>
        have hc : c ≠ '/' := by simpa using h
        simp [root, hc]
  · rw [hroot]
    cases rest with
    | nil => rfl
    | cons c rest =>
        have hc : c ≠ '/' := by simpa using h
        simp [root, hc]

theorem parts_root_append (s rest : List Char) : parts (root s ++ rest) = parts rest := by
  rcases root_cases s with hroot | hroot | hroot <;> simp [hroot, parts_slash]

/-- **What is written out has the root and the parts that it is made of.** -/
theorem root_written (s : List Char) : root (written s) = root s :=
  root_root_append s (head?_joinWith fun _ hp => isPart_of_mem_parts hp)

theorem parts_written (s : List Char) : parts (written s) = parts s :=
  (parts_root_append s _).trans (parts_joinWith fun _ hp => isPart_of_mem_parts hp)

theorem toList_normal (s : String) :
    (normal s).toList = if written s.toList = [] then ['.'] else written s.toList := by
  rw [normal]
  cases hw : root s.toList ++ joinWith ['/'] (parts s.toList) with
  | nil =>
      rw [written, hw, if_pos rfl]
      rfl
  | cons c cs => rw [written, hw, if_neg (List.cons_ne_nil c cs), String.toList_ofList]

/-- Where nothing is written the path has no root and no parts. -/
theorem parts_of_written_eq_nil {s : List Char} (h : written s = []) : root s = [] ∧ parts s = [] := by
  have hroot := root_written s
  have hparts := parts_written s
  rw [h] at hroot hparts
  exact ⟨hroot.symm, hparts.symm⟩

/-- **The written form of a path has its root and its parts.** -/
theorem root_normal (s : String) : root (normal s).toList = root s.toList ∧ parts (normal s).toList = parts s.toList := by
  rw [toList_normal]
  split
  · rename_i hnil
    obtain ⟨hroot, hparts⟩ := parts_of_written_eq_nil hnil
    rw [hroot, hparts]
    exact ⟨rfl, rfl⟩
  · exact ⟨root_written _, parts_written _⟩

/-- **A written path is its own written form.** -/
theorem normal_normal (s : String) : normal (normal s) = normal s := by
  obtain ⟨hroot, hparts⟩ := root_normal s
  rw [normal, hroot, hparts, normal]

/-- Writing a path out does not bring in a home, nor take one out. -/
theorem isFromHome_normal (s : String) : isFromHome (normal s) = isFromHome s := by
  obtain ⟨hroot, hparts⟩ := root_normal s
  rw [isFromHome, hroot, hparts, isFromHome]

/-- A path from the root is not from a home. -/
theorem isFromHome_of_head? {s : String} (h : s.toList.head? = some '/') : isFromHome s = false := by
  have hroot : root s.toList ≠ [] := by
    obtain ⟨rest, hrest⟩ := List.head?_eq_some_iff.mp h
    rw [hrest, root.eq_def]
    split <;> simp_all
  rw [isFromHome, List.isEmpty_eq_false_iff.mpr hroot, Bool.false_and]

/-- What begins with a home from the root, or with a slash and no home, is a path from the root. -/
theorem head?_withoutEnd {home : String} (h : home = "" ∨ home.toList.head? = some '/') (rest : List Char) :
    (withoutEnd home ++ '/' :: rest).head? = some '/' := by
  obtain ⟨front, hfront⟩ : withoutEnd home <+: home.toList := by
    rw [withoutEnd, ← List.reverse_suffix, List.reverse_reverse]
    exact List.dropWhile_suffix _
  cases hhome : withoutEnd home with
  | nil => rfl
  | cons c cs =>
      rw [hhome] at hfront
      rw [← hfront] at h
      rcases h with rfl | h
      · cases hfront
      · simpa using h

/-- What a path that was read from a text is the written form of: the text, or a home and what comes behind it. -/
theorem exists_normal_of_ofText {home : Option String} {s p : String} (h : ofText home s = .ok p) :
    ∃ q, p = normal q ∧
      (isFromHome q = false ∨ ∃ h' rest, home = some h' ∧ q.toList = withoutEnd h' ++ '/' :: rest) := by
  rw [ofText] at h
  split at h
  · split at h
    · rename_i found rest heq hparts
      obtain ⟨h', rfl, rfl⟩ := Option.map_eq_some_iff.mp heq
      split at h
      · cases h
      · exact ⟨_, (Except.ok.inj h).symm, .inr ⟨h', _, rfl, String.toList_ofList⟩⟩
    · cases h
  · rename_i hfrom
    exact ⟨s, (Except.ok.inj h).symm, .inl (by simpa using hfrom)⟩

/-- **A path that was read is written out already.** -/
theorem normal_of_ofText {home : Option String} {s p : String} (h : ofText home s = .ok p) : normal p = p := by
  obtain ⟨q, rfl, -⟩ := exists_normal_of_ofText h
  exact normal_normal q

/-- **A path that was read is from nobody's home**, where the home that `~` stood for was a path from the root. -/
theorem isFromHome_of_ofText {home : Option String} {s p : String}
    (hhome : ∀ h, home = some h → h = "" ∨ h.toList.head? = some '/') (hp : ofText home s = .ok p) :
    isFromHome p = false := by
  obtain ⟨q, rfl, hq | ⟨h, rest, hh, hq⟩⟩ := exists_normal_of_ofText hp
  · rw [isFromHome_normal, hq]
  · rw [isFromHome_normal]
    exact isFromHome_of_head? (hq ▸ head?_withoutEnd (hhome h hh) rest)

/-- Without a home nothing is read that starts from one. -/
theorem isFromHome_of_ofText_none {s p : String} (h : ofText none s = .ok p) : isFromHome s = false := by
  rw [ofText] at h
  split at h
  · cases h
  · rename_i hfrom
    simpa using hfrom

end PathName

end MetaSearch
