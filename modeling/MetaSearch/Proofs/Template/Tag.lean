import MetaSearch.Proofs.Template.Form
import MetaSearch.Proofs.Text.Parts

/-!
# Reading tags

Templates are read character by character, and only double braces stop a reading.  `Copies` is that habit: a reading
that copies a character wherever no double braces open.  All four readings of the rewriting have it, so that each of
them only has to be known at the front of a tag: `action_tag`, `opens_ifTag`, `keyword?_elseTag` and
`keyword?_endTag` say what is seen there.
-/

namespace MetaSearch.Template

/-! ## Readings that copy -/

/-- Double braces open at the front of a text. -/
def Opens (s : List Char) : Prop :=
  ∃ t, s = '\x7b' :: '\x7b' :: t

/-- A reading that adds a character to what follows, wherever no double braces open. -/
def Copies {β : Type} (read : List Char → β) (push : Char → β → β) : Prop :=
  ∀ c s, ¬ Opens (c :: s) → read (c :: s) = push c (read s)

theorem braced?_of_not_opens {s : List Char} (hs : ¬ Opens s) : braced? s = none := by
  unfold braced?
  split
  · rename_i t
    exact absurd ⟨t, rfl⟩ hs
  · rfl

theorem keyword?_of_not_opens {word : String} {s : List Char} (hs : ¬ Opens s) : keyword? word s = none := by
  simp [keyword?, braced?_of_not_opens hs]

theorem opensIf_of_not_opens {s : List Char} (hs : ¬ Opens s) : opensIf s = false := by
  unfold opensIf
  split
  · rename_i t
    exact absurd ⟨t, rfl⟩ hs
  · rfl

theorem ifBlock?_of_not_opens {s : List Char} (hs : ¬ Opens s) : ifBlock? s = none := by
  simp [ifBlock?, ifOpening?, braced?_of_not_opens hs]

section

variable {β : Type} {read : List Char → β} {push : Char → β → β}

/-- Text without an opening brace is copied. -/
theorem Copies.append (h : Copies read push) {s : List Char} (hs : '\x7b' ∉ s) (rest : List Char) :
    read (s ++ rest) = s.foldr push (read rest) := by
  induction s with
  | nil => rfl
  | cons c s ih =>
      have hc : ¬ Opens (c :: (s ++ rest)) := by
        rintro ⟨t, ht⟩
        obtain ⟨rfl, -⟩ := by simpa using ht
        simp at hs
      rw [List.cons_append, h c _ hc, ih (fun hmem => hs (by simp [hmem])), List.foldr_cons]

/-- What follows the braces that open a tag holds no other opening brace. -/
theorem not_mem_tail_tag {body : List Char} (hbody : ∀ c ∈ body, isBrace c = false) :
    '\x7b' ∉ ' ' :: (body ++ [' ', '\x7d', '\x7d']) := by
  intro hmem
  simp only [List.mem_cons, List.mem_append, List.not_mem_nil, or_false] at hmem
  rcases hmem with h | h | h | h | h
  · exact absurd h (by decide)
  · exact absurd (hbody _ h) (by decide)
  · exact absurd h (by decide)
  · exact absurd h (by decide)
  · exact absurd h (by decide)

/-- A tag is copied as a whole where its first brace is. -/
theorem Copies.tag (h : Copies read push) {body : List Char} (hbody : ∀ c ∈ body, isBrace c = false)
    (rest : List Char)
    (hhead : read (tag body ++ rest) = push '\x7b' (read ((tag body).tail ++ rest))) :
    read (tag body ++ rest) = (tag body).foldr push (read rest) := by
  have hsecond : ¬ Opens ((Template.tag body).tail ++ rest) := by
    rintro ⟨t, ht⟩
    simp [Template.tag] at ht
  rw [hhead]
  simp only [Template.tag, List.tail_cons, List.cons_append] at hsecond ⊢
  rw [h _ _ hsecond, ← List.cons_append, h.append (not_mem_tail_tag hbody)]
  rfl

end

/-! ## Tags -/

/-- A tag is read as double braces around its inside. -/
theorem braced?_tag {body : List Char} (hbody : ∀ c ∈ body, isBrace c = false) (rest : List Char) :
    braced? (tag body ++ rest) = some (' ' :: (body ++ [' ']), rest) := by
  have htake : (' ' :: (body ++ ' ' :: '\x7d' :: '\x7d' :: rest)).takeWhile (!isBrace ·) =
      ' ' :: (body ++ [' ']) := by
    rw [List.takeWhile_cons_of_pos (by decide), List.takeWhile_append_of_pos (by simpa using hbody)]
    rfl
  simp only [tag, List.cons_append, List.append_assoc, List.nil_append, braced?, htake]
  simp

/-- A text in front of a space is trimmed to nothing only where it is all blanks. -/
theorem isBlank_of_closeTrimmed_eq_nil {s : List Char} (h : closeTrimmed (s ++ [' ']) = []) :
    ∀ c ∈ s, Text.isBlank c = true := by
  rw [closeTrimmed_append_blank (by decide)] at h
  have hwords : tokens s = [] := by
    rw [← tokens_append_blank (b := ' ') (by decide), ← tokens_dropEndWhile_isBlank, h]
    rfl
  exact tokens_eq_nil_iff.mp hwords

/-- A tag that is read as a keyword holds that word and nothing else. -/
theorem tokens_of_keyword? {word : String} (hne : word.toList ≠ []) (hquote : word.toList.head? ≠ some '"')
    (hword : ∀ c ∈ word.toList, Text.isBlank c = false)
    {body : List Char} (hbody : ∀ c ∈ body, isBrace c = false) {rest found : List Char}
    (h : keyword? word (tag body ++ rest) = some found) : tokens body = [.word word] := by
  have hspace : Text.isBlank ' ' = true := by decide
  simp only [keyword?, braced?_tag hbody, Option.bind_some, openTrimmed_spaced] at h
  rw [← tokens_dropWhile_isBlank]
  generalize body.dropWhile Text.isBlank = inner at h ⊢
  split at h
  · rename_i tail htail
    have hclose : closeTrimmed tail = [] := by
      by_contra hne
      simp [hne] at h
    have hinner := Text.eq_append_of_after? htail
    split at hinner
    · exact absurd (List.append_eq_nil_iff.mp hinner.symm).1 hne
    · rcases List.eq_nil_or_concat tail with rfl | ⟨blanks, b, rfl⟩
      · have hmem : ' ' ∈ word.toList := by
          rw [List.append_nil] at hinner
          simp [← hinner]
        exact absurd (hword _ hmem) (by decide)
      · rw [List.concat_eq_append, ← List.append_assoc] at hinner
        obtain ⟨rfl, hb⟩ := List.append_inj' hinner rfl
        obtain rfl : b = ' ' := by simpa using hb.symm
        have hblank := isBlank_of_closeTrimmed_eq_nil (by simpa using hclose)
        rw [← tokens_append_blank hspace, List.append_assoc]
        cases blanks with
        | nil =>
            rw [List.nil_append, tokens_word_append hword hne hquote hspace, String.ofList_toList]
            rfl
        | cons b blanks =>
            rw [List.cons_append, tokens_word_append hword hne hquote (hblank b (by simp)),
              tokens_append_blank hspace, tokens_eq_nil_iff.mpr fun c hc => hblank c (by simp [hc]),
              String.ofList_toList]
  · simp at h

/-- A text that begins with `if` and a blank has that word first. -/
theorem head?_tokens_of_if {inner s t : List Char} {b : Char} (hb : Text.isBlank b = true)
    (heq : inner ++ ' ' :: s = 'i' :: 'f' :: b :: t) : (tokens inner).head? = some (.word "if") := by
  rcases inner with _ | ⟨c, _ | ⟨d, _ | ⟨e, inner⟩⟩⟩
  · simp at heq
  · simp at heq
  · obtain ⟨rfl, rfl, -⟩ := by simpa using heq
    decide
  · obtain ⟨rfl, rfl, rfl, -⟩ := by simpa using heq
    have hwords := tokens_word_append (w := ['i', 'f']) (by decide) (by decide) (by decide) hb inner
    rw [List.cons_append, List.cons_append, List.nil_append] at hwords
    rw [hwords]
    rfl

/-- A tag that seems to open an if-block begins with that word. -/
theorem head?_tokens_of_opensIf {body : List Char} (hwords : tokens body ≠ []) {rest : List Char}
    (h : opensIf (tag body ++ rest) = true) : (tokens body).head? = some (.word "if") := by
  have hinner : body.dropWhile Text.isBlank ≠ [] := by
    intro hnil
    rw [← tokens_dropWhile_isBlank, hnil] at hwords
    exact hwords rfl
  have hopen : openTrimmed (' ' :: (body ++ [' ', '\x7d', '\x7d'] ++ rest)) =
      body.dropWhile Text.isBlank ++ ' ' :: '\x7d' :: '\x7d' :: rest := by
    simp [openTrimmed, show Text.isBlank ' ' = true by decide, List.dropWhile_append, hinner]
  rw [← tokens_dropWhile_isBlank]
  simp only [tag, List.cons_append, opensIf, hopen] at h
  split at h
  · rename_i b tail htail
    exact head?_tokens_of_if h (Text.eq_append_of_after? htail)
  · simp at h

/-- A tag that opens an if-block begins with that word. -/
theorem head?_tokens_of_ifOpening? {body : List Char} (hbody : ∀ c ∈ body, isBrace c = false)
    {rest : List Char} {found : List Char × List Char} (h : ifOpening? (tag body ++ rest) = some found) :
    (tokens body).head? = some (.word "if") := by
  simp only [ifOpening?, braced?_tag hbody, Option.bind_some, openTrimmed_spaced] at h
  rw [← tokens_dropWhile_isBlank]
  split at h
  · rename_i tail htail
    have heq := Text.eq_append_of_after? htail
    split at heq
    · simp at heq
    · cases tail with
      | nil => simp at h
      | cons b tail =>
          have hb : Text.isBlank b = true := by
            by_contra hb
            simp [hb] at h
          exact head?_tokens_of_if hb heq
  · simp at h

/-- The words of an action are neither a keyword nor do they begin an if-block. -/
theorem ActionForm.not_keyword {words : List Token} (h : ActionForm words) :
    words ≠ [] ∧ words ≠ [.word "else"] ∧ words ≠ [.word "end"] ∧ words.head? ≠ some (.word "if") := by
  cases h with
  | named h =>
      refine ⟨by simp, ?_, ?_, ?_⟩ <;>
      · intro heq
        simp only [List.cons.injEq, List.head?_cons, Option.some.injEq, Token.word.injEq, and_true] at heq
        subst heq
        exact absurd h (by decide)
  | _ => simp

/-- A tag that holds an action is neither a keyword nor the opening of an if-block. -/
theorem action_tag {body : List Char} (hbody : ∀ c ∈ body, isBrace c = false) (hform : ActionForm (tokens body))
    (rest : List Char) :
    keyword? "else" (tag body ++ rest) = none ∧ keyword? "end" (tag body ++ rest) = none ∧
      opensIf (tag body ++ rest) = false ∧ ifOpening? (tag body ++ rest) = none := by
  obtain ⟨hne, helse, hend, hif⟩ := hform.not_keyword
  refine ⟨?_, ?_, ?_, ?_⟩
  · exact Option.eq_none_iff_forall_not_mem.mpr fun found h =>
      helse (tokens_of_keyword? (by decide) (by decide) (by decide) hbody h)
  · exact Option.eq_none_iff_forall_not_mem.mpr fun found h =>
      hend (tokens_of_keyword? (by decide) (by decide) (by decide) hbody h)
  · exact Bool.eq_false_iff.mpr fun h => hif (head?_tokens_of_opensIf hne h)
  · exact Option.eq_none_iff_forall_not_mem.mpr fun found h =>
      hif (head?_tokens_of_ifOpening? hbody h)

theorem isBrace_of_mem_ifTag {cond : List Char} (hcond : ∀ c ∈ cond, isBrace c = false) :
    ∀ c ∈ 'i' :: 'f' :: ' ' :: cond, isBrace c = false := by
  intro c hc
  simp only [List.mem_cons] at hc
  rcases hc with rfl | rfl | rfl | hc
  · decide
  · decide
  · decide
  · exact hcond c hc

theorem tokens_ifTag (cond : List Char) : tokens ('i' :: 'f' :: ' ' :: cond) = .word "if" :: tokens cond :=
  tokens_word_append (w := ['i', 'f']) (by decide) (by decide) (by decide) (by decide) cond

/-- A tag that opens an if-block is no keyword, and is known for what it is. -/
theorem opens_ifTag {cond : List Char} (hcond : ∀ c ∈ cond, isBrace c = false)
    (hform : ConditionForm (tokens cond)) (rest : List Char) :
    keyword? "else" (ifTag cond ++ rest) = none ∧ keyword? "end" (ifTag cond ++ rest) = none ∧
      opensIf (ifTag cond ++ rest) = true := by
  have hbody := isBrace_of_mem_ifTag hcond
  have hwords : ∀ word, tokens ('i' :: 'f' :: ' ' :: cond) ≠ [.word word] := by
    intro word h
    rw [tokens_ifTag] at h
    obtain ⟨-, hnil⟩ := by simpa using h
    rw [hnil] at hform
    cases hform
  refine ⟨?_, ?_, ?_⟩
  · exact Option.eq_none_iff_forall_not_mem.mpr fun found h =>
      hwords _ (tokens_of_keyword? (by decide) (by decide) (by decide) hbody h)
  · exact Option.eq_none_iff_forall_not_mem.mpr fun found h =>
      hwords _ (tokens_of_keyword? (by decide) (by decide) (by decide) hbody h)
  · simp [ifTag, tag, opensIf, openTrimmed, Text.after?, show Text.isBlank ' ' = true by decide,
      show Text.isBlank 'i' = false by decide]

/-- The condition of an if-block is read back with its words. -/
theorem ifOpening?_ifTag {cond : List Char} (hcond : ∀ c ∈ cond, isBrace c = false)
    (hform : ConditionForm (tokens cond)) (rest : List Char) :
    ∃ read, tokens read = tokens cond ∧ ifOpening? (ifTag cond ++ rest) = some (read, rest) := by
  have hspace : Text.isBlank ' ' = true := by decide
  refine ⟨trimmed (' ' :: (cond ++ [' '])), tokens_trimmed cond, ?_⟩
  have hne : trimmed (' ' :: (cond ++ [' '])) ≠ [] := by
    intro hnil
    rw [← tokens_trimmed, hnil] at hform
    cases hform
  have hopen : openTrimmed (' ' :: ('i' :: 'f' :: ' ' :: cond ++ [' '])) =
      'i' :: 'f' :: ' ' :: (cond ++ [' ']) := by
    simp [openTrimmed, hspace, show Text.isBlank 'i' = false by decide]
  have hafter : Text.after? ['i', 'f'] ('i' :: 'f' :: ' ' :: (cond ++ [' '])) = some (' ' :: (cond ++ [' '])) :=
    Text.after?_append ['i', 'f'] _
  have hdrop : (' ' :: (cond ++ [' '])).drop ((' ' :: (cond ++ [' '])).takeWhile Text.isBlank).length =
      openTrimmed (' ' :: (cond ++ [' '])) :=
    Text.drop_length_takeWhile _ _
  have hblanks : ((' ' :: (cond ++ [' '])).takeWhile Text.isBlank).isEmpty = false := by
    simp [hspace]
  rw [trimmed] at hne ⊢
  simp only [ifTag, ifOpening?, braced?_tag (isBrace_of_mem_ifTag hcond), Option.bind_some, hopen, hafter, hdrop,
    hblanks]
  simp [hne]

/-- What parts the branches and what ends them. -/
theorem keyword?_elseTag (rest : List Char) :
    keyword? "else" (elseTag ++ rest) = some rest ∧ keyword? "end" (elseTag ++ rest) = none ∧
      opensIf (elseTag ++ rest) = false := by
  have hbody : ∀ c ∈ ['e', 'l', 's', 'e'], isBrace c = false := by decide
  refine ⟨?_, ?_, ?_⟩
  · rw [elseTag, keyword?, braced?_tag hbody]
    rfl
  · rw [elseTag, keyword?, braced?_tag hbody]
    rfl
  · rfl

theorem keyword?_endTag (rest : List Char) :
    keyword? "else" (endTag ++ rest) = none ∧ keyword? "end" (endTag ++ rest) = some rest := by
  have hbody : ∀ c ∈ ['e', 'n', 'd'], isBrace c = false := by decide
  refine ⟨?_, ?_⟩
  · rw [endTag, keyword?, braced?_tag hbody]
    rfl
  · rw [endTag, keyword?, braced?_tag hbody]
    rfl

end MetaSearch.Template
