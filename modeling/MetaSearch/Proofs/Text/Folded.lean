import MetaSearch.Proofs.Number.Spelled
import MetaSearch.Proofs.Text.Parts
import MetaSearch.Proofs.Text.Trimmed
import MetaSearch.Text.Letter

/-!
# Texts without regard to case

The caseless form of a text has blanks where the text has them and nowhere else (`foldExpansion_of_isBlank`,
`foldExpansion_of_not_isBlank`), so its words are the caseless forms of the words of the text (`words_fold`), and no
word is lost when blanks are taken off around it (`fold_infix_strip_iff`).
-/

namespace MetaSearch.Text

/-! ## Single characters -/

/-- What a table of segments leads to is no blank where no segment of images reaches one. -/
theorem isBlank_of_segmentImage? {segments : Array (Nat × Nat × Nat × Nat)}
    (hclear : (segments.toList.all fun (first, last, _, start) =>
      blankCodes.all fun blank => blank < start || start + (last - first) < blank) = true)
    {n image : Nat} (h : segmentImage? segments n = some image) : isBlank (Char.ofNat image) = false := by
  rw [segmentImage?] at h
  obtain ⟨⟨first, last, step, start⟩, hfound, rfl⟩ := Option.map_eq_some_iff.mp h
  have hmem := Array.mem_toList_iff.mpr (Array.mem_of_find?_eq_some hfound)
  have hrange := Array.find?_some hfound
  have hclear' := List.all_eq_true.mp hclear _ hmem
  simp only [Bool.and_eq_true, decide_eq_true_eq] at hrange
  rw [← Bool.not_eq_true]
  intro hblank
  have hcode := toNat_mem_blankCodes hblank
  have himage : (Char.ofNat (start + (n - first))).toNat = start + (n - first) ∨
      (Char.ofNat (start + (n - first))).toNat = 0 := by
    by_cases hvalid : (start + (n - first)).isValidChar
    · exact .inl (by rw [Char.toNat, Char.ofNat, dif_pos hvalid]; rfl)
    · exact .inr (by rw [Char.toNat, Char.ofNat, dif_neg hvalid]; rfl)
  rcases himage with himage | himage <;> rw [himage] at hcode
  · have hbetween := List.all_eq_true.mp hclear' _ hcode
    simp only [Bool.or_eq_true, decide_eq_true_eq] at hbetween
    omega
  · exact absurd hcode (by decide)

/-- A small letter is no blank. -/
theorem isBlank_lowerChar {c : Char} (h : isBlank c = false) : isBlank (lowerChar c) = false := by
  rw [lowerChar]
  split
  · rename_i hascii
    have hcodes : ∀ n < 128, isBlank (Char.ofNat n) = false → isBlank (Char.ofNat n).toLower = false := by
      decide +kernel
    have hc := hcodes c.toNat hascii
    rw [Char.ofNat_toNat] at hc
    exact hc h
  · cases himage : segmentImage? lowerSegments c.toNat with
    | none => exact h
    | some image => exact isBlank_of_segmentImage? (by decide +kernel) himage

/-- A table of segments leads nowhere from a blank where no segment reaches one. -/
theorem segmentImage?_of_isBlank {segments : Array (Nat × Nat × Nat × Nat)}
    (hclear : (segments.toList.all fun (first, last, _) =>
      blankCodes.all fun blank => blank < first || last < blank) = true)
    {c : Char} (h : isBlank c = true) : segmentImage? segments c.toNat = none := by
  rw [segmentImage?, Option.map_eq_none_iff, Array.find?_eq_none]
  rintro ⟨first, last, step, start⟩ hmem
  have hclear' := List.all_eq_true.mp hclear _ (Array.mem_toList_iff.mpr hmem)
  have hbetween := List.all_eq_true.mp hclear' _ (toNat_mem_blankCodes h)
  simp only [Bool.or_eq_true, decide_eq_true_eq] at hbetween
  simp only [Bool.and_eq_true, decide_eq_true_eq]
  omega

/-- A blank is its own small letter. -/
theorem lowerChar_of_isBlank {c : Char} (h : isBlank c = true) : lowerChar c = c := by
  rw [lowerChar]
  split
  · rename_i hless
    have hascii : ∀ n ∈ blankCodes, n < 128 → (Char.ofNat n).toLower = Char.ofNat n := by decide +kernel
    have hsmall := hascii _ (toNat_mem_blankCodes h) hless
    rwa [Char.ofNat_toNat] at hsmall
  · rw [segmentImage?_of_isBlank (by decide +kernel) h]
    rfl

/-- A blank is its own caseless form. -/
theorem foldExpansion_of_isBlank {c : Char} (h : isBlank c = true) : foldExpansion c = [c] := by
  have hcode := toNat_mem_blankCodes h
  have hsmall := lowerChar_of_isBlank h
  have hcodes : (foldExpansions.toList.all fun (code, _) => !blankCodes.contains code) = true := by decide +kernel
  have hexpansion : foldExpansions.find? (·.1 == c.toNat) = none := by
    rw [Array.find?_eq_none]
    rintro ⟨code, image⟩ hmem heq
    obtain rfl : code = c.toNat := eq_of_beq heq
    have hclear := List.all_eq_true.mp hcodes _ (Array.mem_toList_iff.mpr hmem)
    simp only [List.contains_iff_mem.mpr hcode, Bool.not_true, Bool.false_eq_true] at hclear
  rw [foldExpansion]
  split
  · rename_i hless
    rw [lowerChar, if_pos hless] at hsmall
    rw [hsmall]
  · rw [hexpansion, segmentImage?_of_isBlank (by decide +kernel) h, hsmall]

/-- The caseless form of any other character is there and has no blanks in it. -/
theorem foldExpansion_of_not_isBlank {c : Char} (h : isBlank c = false) :
    foldExpansion c ≠ [] ∧ ∀ d ∈ foldExpansion c, isBlank d = false := by
  have hsmall : isBlank (lowerChar c) = false := isBlank_lowerChar h
  rw [foldExpansion]
  split
  · rename_i hascii
    rw [lowerChar, if_pos hascii] at hsmall
    simpa using hsmall
  · split
    · rename_i code image hfound
      have hall : (foldExpansions.toList.all fun (_, image) =>
          !image.isEmpty && image.all fun n => !isBlank (Char.ofNat n)) = true := by decide +kernel
      have hmem := Array.mem_toList_iff.mpr (Array.mem_of_find?_eq_some hfound)
      simpa [List.isEmpty_iff] using List.all_eq_true.mp hall _ hmem
    · split
      · rename_i image himage
        simpa using isBlank_of_segmentImage? (by decide +kernel) himage
      · simpa using hsmall

/-! ## Edges -/

/-- A blank stays where it is among the small letters. -/
theorem lowerFrom_cons_of_isBlank {c : Char} (h : isBlank c = true) (before rest : List Char) :
    lowerFrom before (c :: rest) = c :: lowerFrom (c :: before) rest := by
  have hsigma : (c == 'Σ') = false := by
    rw [beq_eq_false_iff_ne]
    rintro rfl
    exact absurd h (by decide)
  have hdotted : (c == 'İ') = false := by
    rw [beq_eq_false_iff_ne]
    rintro rfl
    exact absurd h (by decide)
  have hsmall := lowerChar_of_isBlank h
  simp only [lowerFrom, hsigma, hdotted, Bool.false_eq_true, if_false]
  split_ifs with hascii
  · rw [lowerChar, if_pos hascii] at hsmall
    rw [hsmall, List.singleton_append]
  · rw [hsmall, List.singleton_append]

theorem getLast?_lowerFrom {c : Char} (h : isBlank c = true) (before s : List Char) :
    (lowerFrom before (s ++ [c])).getLast? = some c := by
  induction s generalizing before with
  | nil =>
      rw [List.nil_append, lowerFrom_cons_of_isBlank h]
      rfl
  | cons d s ih =>
      rw [List.cons_append, lowerFrom, List.getLast?_append, ih]
      rfl

/-- The small letters of characters of ASCII stand one for one. -/
theorem lowerFrom_of_ascii {s : List Char} (h : ∀ c ∈ s, c.toNat < 128) (before : List Char) :
    lowerFrom before s = s.map Char.toLower := by
  induction s generalizing before with
  | nil => rfl
  | cons c s ih =>
      obtain ⟨hc, hs⟩ := List.forall_mem_cons.mp h
      rw [lowerFrom, if_pos hc, ih hs]
      rfl

/-- A text whose small letters neither begin nor end with a blank is stripped already. -/
theorem strip_of_lower {s : String} (hhead : ∀ c, (lower s).toList.head? = some c → isBlank c = false)
    (hlast : ∀ c, (lower s).toList.getLast? = some c → isBlank c = false) : strip s = s := by
  rw [lower, String.toList_ofList] at hhead hlast
  apply strip_of_edges
  · intro c hc
    obtain ⟨rest, hs⟩ := List.head?_eq_some_iff.mp hc
    cases hblank : isBlank c with
    | false => rfl
    | true =>
        rw [hs, lowerFrom_cons_of_isBlank hblank] at hhead
        exact hblank.symm.trans (hhead c rfl)
  · intro c hc
    obtain ⟨front, hs⟩ := List.getLast?_eq_some_iff.mp hc
    cases hblank : isBlank c with
    | false => rfl
    | true =>
        rw [hs, getLast?_lowerFrom hblank] at hlast
        exact hblank.symm.trans (hlast c rfl)

/-! ## Words -/

section

variable {p : Char → Bool} {f : Char → List Char} {s : List Char}

/-- A character of the class closes the run that is open. -/
theorem fieldsBy_go_of_mem {c : Char} (h : p c = true) (run s : List Char) :
    fieldsBy.go p run (c :: s) = fieldsBy.go p run [] ++ fieldsBy.go p [] s := by
  cases run <;> simp [fieldsBy.go, h]

/-- Characters outside the class go on with it. -/
theorem fieldsBy_go_append {front : List Char} (h : ∀ c ∈ front, p c = false) (run s : List Char) :
    fieldsBy.go p run (front ++ s) = fieldsBy.go p (front.reverse ++ run) s := by
  induction front generalizing run with
  | nil => rfl
  | cons c front ih =>
      obtain ⟨hc, hfront⟩ := List.forall_mem_cons.mp h
      have hstep : fieldsBy.go p run (c :: (front ++ s)) = fieldsBy.go p (c :: run) (front ++ s) := by
        cases run <;> simp [fieldsBy.go, hc]
      rw [List.cons_append, hstep, ih hfront, List.reverse_cons, List.append_assoc]
      rfl

/-- The runs of an image are the images of the runs, where `f` keeps the class apart from what is outside of it. -/
theorem fieldsBy_flatMap (hin : ∀ c, p c = true → f c = [c])
    (hout : ∀ c, p c = false → f c ≠ [] ∧ ∀ d ∈ f c, p d = false) (s : List Char) :
    fieldsBy p (s.flatMap f) = (fieldsBy p s).map (List.flatMap f) := by
  have hclosed : ∀ run : List Char, (∀ c ∈ run, p c = false) →
      fieldsBy.go p (run.reverse.flatMap f).reverse [] = (fieldsBy.go p run []).map (List.flatMap f) := by
    intro run hrun
    cases run with
    | nil => rfl
    | cons c run =>
        have hsome : ((c :: run).reverse.flatMap f).reverse ≠ [] := by
          have hc := (hout c (hrun c List.mem_cons_self)).1
          simp [hc]
        obtain ⟨d, image, himage⟩ := List.exists_cons_of_ne_nil hsome
        rw [himage, fieldsBy.go, fieldsBy.go, ← himage, List.reverse_reverse]
        rfl
  have hopen : ∀ run : List Char, (∀ c ∈ run, p c = false) →
      fieldsBy.go p (run.reverse.flatMap f).reverse (s.flatMap f) = (fieldsBy.go p run s).map (List.flatMap f) := by
    induction s with
    | nil => exact hclosed
    | cons c s ih =>
        intro run hrun
        rw [List.flatMap_cons]
        cases hc : p c with
        | true =>
            rw [hin c hc, List.singleton_append, fieldsBy_go_of_mem hc, fieldsBy_go_of_mem hc, hclosed run hrun,
              List.map_append]
            exact congrArg _ (ih [] (by simp))
        | false =>
            have hmore := ih (c :: run) (List.forall_mem_cons.mpr ⟨hc, hrun⟩)
            rw [List.reverse_cons, List.flatMap_append, List.reverse_append, List.flatMap_singleton] at hmore
            rw [fieldsBy_go_append (hout c hc).2, hmore]
            exact congrArg _ (fieldsBy_go_append (List.forall_mem_singleton.mpr hc) run s).symm
  exact hopen [] (by simp)

theorem not_of_mem_fieldsBy_go {opened run : List Char} (hopened : ∀ c ∈ opened, p c = false)
    (hrun : run ∈ fieldsBy.go p opened s) : ∀ c ∈ run, p c = false := by
  have hclosed : ∀ begun : List Char, (∀ c ∈ begun, p c = false) →
      ∀ run ∈ fieldsBy.go p begun [], ∀ c ∈ run, p c = false := by
    intro begun hbegun run hrun
    cases begun with
    | nil => cases hrun
    | cons d begun =>
        rw [fieldsBy.go, List.mem_singleton] at hrun
        subst hrun
        exact fun c hc => hbegun c (List.mem_reverse.mp hc)
  induction s generalizing opened with
  | nil => exact hclosed opened hopened run hrun
  | cons c s ih =>
      cases hc : p c with
      | true =>
          rw [fieldsBy_go_of_mem hc, List.mem_append] at hrun
          rcases hrun with hrun | hrun
          · exact hclosed opened hopened run hrun
          · exact ih (by simp) hrun
      | false =>
          have hstep := fieldsBy_go_append (List.forall_mem_singleton.mpr hc) opened s
          have hmore : ∀ d ∈ c :: opened, p d = false := List.forall_mem_cons.mpr ⟨hc, hopened⟩
          rw [List.singleton_append] at hstep
          rw [hstep] at hrun
          exact ih hmore hrun

/-- Runs hold no character of the class. -/
theorem not_of_mem_fieldsBy {run : List Char} (h : run ∈ fieldsBy p s) : ∀ c ∈ run, p c = false :=
  not_of_mem_fieldsBy_go (by simp) h

/-- A text is what trimming leaves of it, between characters of the class. -/
theorem exists_trimWhile_eq (p : Char → Bool) (s : List Char) :
    ∃ front back, s = front ++ trimWhile p s ++ back ∧ (∀ c ∈ front, p c = true) ∧ ∀ c ∈ back, p c = true := by
  refine ⟨s.takeWhile p, ((s.dropWhile p).reverse.takeWhile p).reverse, ?_, fun c => of_mem_takeWhile, fun c hc => ?_⟩
  · rw [trimWhile, dropEndWhile, List.append_assoc, ← List.reverse_append, List.takeWhile_append_dropWhile,
      List.reverse_reverse, List.takeWhile_append_dropWhile]
  · exact of_mem_takeWhile (List.mem_reverse.mp hc)

/-- What stands behind characters of the class, and holds none of them, stands in the rest. -/
theorem infix_of_infix_append {front word : List Char} (hfront : ∀ c ∈ front, p c = true)
    (hword : ∀ c ∈ word, p c = false) (h : word <:+: front ++ s) : word <:+: s := by
  induction front with
  | nil => exact h
  | cons c front ih =>
      obtain ⟨hc, hfront⟩ := List.forall_mem_cons.mp hfront
      rcases List.infix_cons_iff.mp h with hprefix | hrest
      · cases word with
        | nil => exact List.nil_infix
        | cons d word =>
            obtain rfl := (List.cons_prefix_cons.mp hprefix).1
            rw [hword d List.mem_cons_self] at hc
            cases hc
      · exact ih hfront hrest

/-- What holds no character of the class stands between such characters only where it stands in what is between. -/
theorem infix_between_iff {front back word : List Char} (hfront : ∀ c ∈ front, p c = true)
    (hback : ∀ c ∈ back, p c = true) (hword : ∀ c ∈ word, p c = false) :
    word <:+: front ++ s ++ back ↔ word <:+: s := by
  refine ⟨fun h => ?_, fun h => h.trans (List.infix_append front s back)⟩
  rw [List.append_assoc] at h
  have hrest := infix_of_infix_append hfront hword h
  rw [← List.reverse_infix, List.reverse_append] at hrest
  rw [← List.reverse_infix]
  exact infix_of_infix_append (p := p) (by simpa using hback) (by simpa using hword) hrest

end

/-- The words of a caseless form are the caseless forms of the words. -/
theorem words_fold (s : String) : words (fold s) = (words s).map fold := by
  rw [words, words, fold, String.toList_ofList,
    fieldsBy_flatMap (fun _ => foldExpansion_of_isBlank) (fun _ => foldExpansion_of_not_isBlank), List.map_map,
    List.map_map]
  refine List.map_congr_left fun run _ => ?_
  simp [fold]

/-- Blanks around a text are in the way of no word. -/
theorem fold_infix_strip_iff {s t word : String} (h : word ∈ words s) :
    (fold word).toList <:+: (fold (strip t)).toList ↔ (fold word).toList <:+: (fold t).toList := by
  obtain ⟨run, hrun, rfl⟩ := List.mem_map.mp h
  have hword : ∀ c ∈ (fold (String.ofList run)).toList, isBlank c = false := by
    intro c hc
    rw [fold, String.toList_ofList, String.toList_ofList] at hc
    obtain ⟨d, hd, hc⟩ := List.mem_flatMap.mp hc
    exact (foldExpansion_of_not_isBlank (not_of_mem_fieldsBy hrun d hd)).2 c hc
  have hblank : ∀ blanks : List Char, (∀ c ∈ blanks, isBlank c = true) →
      ∀ c ∈ blanks.flatMap foldExpansion, isBlank c = true := by
    intro blanks hblanks c hc
    obtain ⟨d, hd, hc⟩ := List.mem_flatMap.mp hc
    rw [foldExpansion_of_isBlank (hblanks d hd), List.mem_singleton] at hc
    exact hc ▸ hblanks d hd
  obtain ⟨front, back, hsplit, hfront, hback⟩ := exists_trimWhile_eq isBlank t.toList
  have hwhole : (fold t).toList = front.flatMap foldExpansion ++ (fold (strip t)).toList ++
      back.flatMap foldExpansion := by
    rw [fold, fold, strip, String.toList_ofList, String.toList_ofList, String.toList_ofList, ← List.flatMap_append,
      ← List.flatMap_append, ← hsplit]
  rw [hwhole, infix_between_iff (hblank front hfront) (hblank back hback) hword]

end MetaSearch.Text
