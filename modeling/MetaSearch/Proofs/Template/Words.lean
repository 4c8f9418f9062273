import MetaSearch.Template.Evaluate
import Mathlib.Data.List.Induction

/-!
# Words of an action

What double braces hold is trimmed before it is read as words, and blanks at either end of a text make no
difference to its words: `tokens_trimmed` says so for the spacing in which templates are usually written.
`ActionForm` and `ConditionForm` are the forms that have a text or a truth value; whether an action has one
depends on its words alone and never on the environment.
-/

namespace MetaSearch.Template

/-- The closing quote of a quoted text is found without regard to a last character that is no quote. -/
theorem quotedBody_append_singleton {b : Char} (hb : b ≠ '"') (s : List Char) :
    quotedBody (s ++ [b]) = (quotedBody s).map fun found => (found.1, found.2 ++ [b]) := by
  fun_induction quotedBody s with
  | case1 =>
      by_cases h : b = '\\'
      · subst h; rfl
      · simp [quotedBody, h]
  | case2 s => simp [quotedBody]
  | case3 c s hc =>
      have hc' : c = '\n' := by simpa using hc
      simp [quotedBody, hc']
  | case4 c s hc ih =>
      have hc' : ¬ c = '\n' := by simpa using hc
      simp only [List.cons_append, quotedBody, ih, Option.map_map]
      simp [hc']
      rfl
  | case5 c s hquote hslash hc =>
      have hc' : c = '\\' := by simpa using hc
      subst hc'
      cases s with
      | nil => simp [quotedBody]
      | cons d s => exact absurd rfl (hslash d s rfl)
  | case6 c s hquote hslash hc ih =>
      have hc' : ¬ c = '\\' := by simpa using hc
      have hq : ¬ c = '"' := fun h => hquote h
      rw [List.cons_append, quotedBody.eq_4 _ _ hq (fun d t h => absurd h hc')]
      simp [hc', ih, Option.map_map]
      rfl

/-- A blank in front of a text is no part of a word. -/
theorem tokens_cons_blank {b : Char} (hb : Text.isBlank b = true) (s : List Char) :
    tokens (b :: s) = tokens s := by
  simp [tokens, tokensFrom, hb]

/-- What is taken from the front ends before a last character that is not taken. -/
theorem takeWhile_append_stop {p : Char → Bool} {b : Char} (hb : p b = false) (s : List Char) :
    (s ++ [b]).takeWhile p = s.takeWhile p := by
  induction s with
  | nil => simp [hb]
  | cons c s ih => cases hc : p c <;> simp [hc, ih]

/-- A blank behind a text is no part of a word, wherever reading is. -/
theorem tokensFrom_append_blank {b : Char} (hb : Text.isBlank b = true) (s : List Char) (n : Nat) :
    tokensFrom n (s ++ [b]) = tokensFrom n s := by
  have hquote : b ≠ '"' := by
    rintro rfl
    exact absurd hb (by decide)
  induction s generalizing n with
  | nil => cases n <;> simp [tokensFrom, hb]
  | cons c s ih =>
      cases n with
      | succ n => simpa only [List.cons_append, tokensFrom] using ih n
      | zero =>
          by_cases hc : Text.isBlank c = true
          · simpa only [List.cons_append, tokensFrom, hc, if_true] using ih 0
          · have hword : (c :: (s ++ [b])).takeWhile (!Text.isBlank ·) =
                (c :: s).takeWhile (!Text.isBlank ·) := by
              rw [← List.cons_append]
              exact takeWhile_append_stop (by simp [hb]) _
            simp only [List.cons_append, tokensFrom, hc, Bool.false_eq_true, if_false, hword,
              quotedBody_append_singleton hquote]
            by_cases hcq : c = '"'
            · subst hcq
              cases hbody : quotedBody s with
              | none => simp [ih]
              | some found => simp [ih]
            · simp [hcq, ih]

/-- A blank behind a text is no part of a word. -/
theorem tokens_append_blank {b : Char} (hb : Text.isBlank b = true) (s : List Char) :
    tokens (s ++ [b]) = tokens s :=
  tokensFrom_append_blank hb s 0

/-- Blanks in front of a text do not change its words. -/
theorem tokens_dropWhile_isBlank (s : List Char) : tokens (s.dropWhile Text.isBlank) = tokens s := by
  induction s with
  | nil => rfl
  | cons c s ih =>
      by_cases hc : Text.isBlank c = true
      · rw [List.dropWhile_cons_of_pos hc, ih, tokens_cons_blank hc]
      · rw [List.dropWhile_cons_of_neg hc]

/-- Blanks behind a text do not change its words. -/
theorem tokens_dropEndWhile_isBlank (s : List Char) :
    tokens (Text.dropEndWhile Text.isBlank s) = tokens s := by
  induction s using List.reverseRecOn with
  | nil => rfl
  | append_singleton s b ih =>
      by_cases hb : Text.isBlank b = true
      · rw [tokens_append_blank hb, ← ih]
        simp [Text.dropEndWhile, hb]
      · simp [Text.dropEndWhile, hb]

/-- A text without words is one that is all blanks. -/
theorem tokens_eq_nil_iff {s : List Char} : tokens s = [] ↔ ∀ c ∈ s, Text.isBlank c = true := by
  induction s with
  | nil => simp [tokens, tokensFrom]
  | cons c s ih =>
      by_cases hc : Text.isBlank c = true
      · rw [tokens_cons_blank hc, ih]
        simp [hc]
      · constructor
        · intro h
          simp only [tokens, tokensFrom, hc, Bool.false_eq_true, if_false] at h
          split at h <;> simp at h
        · intro h
          exact absurd (h c (by simp)) hc

/-- A word that ends at a blank is read as such. -/
theorem tokens_word_append {w : List Char} (hw : ∀ c ∈ w, Text.isBlank c = false) (hne : w ≠ [])
    (hquote : w.head? ≠ some '"') {b : Char} (hb : Text.isBlank b = true) (s : List Char) :
    tokens (w ++ b :: s) = .word (String.ofList w) :: tokens s := by
  have skips : ∀ (v : List Char), tokensFrom v.length (v ++ b :: s) = tokens s := by
    intro v
    induction v with
    | nil => simp [tokensFrom, hb, tokens]
    | cons c v ih => simpa [tokensFrom] using ih
  cases w with
  | nil => exact absurd rfl hne
  | cons c v =>
      have hc : Text.isBlank c = false := hw c (by simp)
      have hcq : c ≠ '"' := by simpa using hquote
      have hword : (c :: (v ++ b :: s)).takeWhile (!Text.isBlank ·) = c :: v := by
        rw [← List.cons_append, List.takeWhile_append_of_pos (by simpa using hw)]
        simp [hb]
      simp only [tokens, List.cons_append, tokensFrom, hc, Bool.false_eq_true, if_false, hword]
      simpa [hcq, tokens] using skips v

/-- A text that ends with a blank has no hyphen to trim. -/
theorem closeTrimmed_append_blank {b : Char} (hb : Text.isBlank b = true) (s : List Char) :
    closeTrimmed (s ++ [b]) = Text.dropEndWhile Text.isBlank (s ++ [b]) := by
  have hne : b ≠ '-' := by
    rintro rfl
    exact absurd hb (by decide)
  simp [closeTrimmed, hne]

/-- What a spaced text is without the blanks in front. -/
theorem openTrimmed_spaced (body : List Char) :
    openTrimmed (' ' :: (body ++ [' '])) =
      if (body.dropWhile Text.isBlank).isEmpty then [] else body.dropWhile Text.isBlank ++ [' '] := by
  have hspace : Text.isBlank ' ' = true := by decide
  simp [openTrimmed, hspace, List.dropWhile_append]

/-- Trimming a spaced text leaves its words. -/
theorem tokens_trimmed (body : List Char) : tokens (trimmed (' ' :: (body ++ [' ']))) = tokens body := by
  have hspace : Text.isBlank ' ' = true := by decide
  rw [trimmed, openTrimmed_spaced]
  by_cases hempty : (body.dropWhile Text.isBlank).isEmpty = true
  · rw [if_pos hempty, ← tokens_dropWhile_isBlank body, List.isEmpty_iff.mp hempty]
    rfl
  · rw [if_neg hempty, closeTrimmed_append_blank hspace, tokens_dropEndWhile_isBlank,
      tokens_append_blank hspace, tokens_dropWhile_isBlank]

/-! ## Forms that have a meaning -/

/-- The words of an action that has a text. -/
inductive ActionForm : List Token → Prop
  | quoted (s : String) : ActionForm [.literal s]
  | named {s : String} (h : Text.startsWith s "." = true) : ActionForm [.word s]
  | anyOf (args : List Token) (h : args ≠ []) : ActionForm (.word "or" :: args)
  | allOf (args : List Token) (h : args ≠ []) : ActionForm (.word "and" :: args)
  | alike (a b : Token) : ActionForm [.word "eq", a, b]
  | unlike (a b : Token) : ActionForm [.word "ne", a, b]
  | joined (value sep : Token) : ActionForm [.word "join", value, sep]

/-- The words of a condition that has a truth value.  What follows a quoted text is not looked at. -/
inductive ConditionForm : List Token → Prop
  | quoted (s : String) (args : List Token) : ConditionForm (.literal s :: args)
  | named {s : String} (h : Text.startsWith s "." = true) : ConditionForm [.word s]
  | anyOf (args : List Token) (h : args ≠ []) : ConditionForm (.word "or" :: args)
  | allOf (args : List Token) (h : args ≠ []) : ConditionForm (.word "and" :: args)
  | alike (a b : Token) : ConditionForm [.word "eq", a, b]
  | unlike (a b : Token) : ConditionForm [.word "ne", a, b]

/-- Two words are compared exactly when there are two. -/
theorem compare?_isSome_iff {env : Environment} {args : List Token} :
    (compare? env args).isSome = true ↔ ∃ a b, args = [a, b] := by
  rcases args with _ | ⟨a, _ | ⟨b, _ | ⟨c, rest⟩⟩⟩ <;> simp [compare?]

/-- **Which actions have a text** is decided by their words. -/
theorem action?_isSome_iff {env : Environment} {s : List Char} :
    (action? env s).isSome = true ↔ ActionForm (tokens s) := by
  unfold action?
  cases htokens : tokens s with
  | nil => exact ⟨by simp, nofun⟩
  | cons head args =>
      cases head with
      | literal t =>
          constructor
          · intro h
            have hargs : args = [] := by simpa using h
            exact hargs ▸ .quoted t
          · rintro ⟨⟩
            rfl
      | word op =>
          dsimp only
          constructor
          · intro h
            split_ifs at h with hnamed hargs hor hargs hand hargs heq hne hjoin <;> simp_all
            · exact .named hnamed
            · exact .anyOf args hargs
            · exact .allOf args hargs
            · obtain ⟨a, b, rfl⟩ := compare?_isSome_iff.mp h
              exact .alike a b
            · obtain ⟨a, b, rfl⟩ := compare?_isSome_iff.mp h
              exact .unlike a b
            · rcases args with _ | ⟨value, _ | ⟨sep, _ | ⟨c, rest⟩⟩⟩
              · simp at h
              · simp at h
              · exact .joined value sep
              · simp at h
          · intro h
            cases h <;> simp_all [compare?, Text.startsWith, Text.begins, Text.after?]
            split <;> rfl

/-- **Which conditions have a truth value** is decided by their words. -/
theorem condition?_isSome_iff {env : Environment} {s : List Char} :
    (condition? env s).isSome = true ↔ ConditionForm (tokens s) := by
  unfold condition?
  cases htokens : tokens s with
  | nil => exact ⟨by simp, nofun⟩
  | cons head args =>
      cases head with
      | literal t => exact ⟨fun _ => .quoted t args, fun _ => rfl⟩
      | word op =>
          dsimp only
          constructor
          · intro h
            split_ifs at h with hor hargs hand hargs heq hne hnamed <;> simp_all
            · exact .anyOf args hargs
            · exact .allOf args hargs
            · obtain ⟨a, b, rfl⟩ := compare?_isSome_iff.mp h
              exact .alike a b
            · obtain ⟨a, b, rfl⟩ := compare?_isSome_iff.mp h
              exact .unlike a b
            · exact .named hnamed.1
          · intro h
            cases h with
            | named h =>
                split_ifs <;> simp_all [Text.startsWith, Text.begins, Text.after?]
            | _ => simp_all [compare?]

end MetaSearch.Template
