import MetaSearch.Proofs.Template.Words
import MetaSearch.Proofs.Text.Parts

/-!
# Held characters

Two characters are kept for the braces of values while a template is rewritten. `action?_unheld` says that an
action written without them, over an environment whose values print without them, has a text without them; so a
text that is held and then released comes out as it was.
-/

namespace MetaSearch.Template

/-- What holds of the characters of a text is decided along the text, not along all characters that there are. -/
scoped instance decidableAlong (p : Char → Prop) [DecidablePred p] (s : List Char) : Decidable (∀ c ∈ s, p c) :=
  List.decidableBAll p s

/-- A text without the characters that are kept for braces. -/
def Unheld (s : List Char) : Prop :=
  ∀ c ∈ s, c ≠ heldOpen ∧ c ≠ heldClose

/-- The characters that a word is written with. -/
def Token.spelling : Token → List Char
  | .word s => s.toList
  | .literal s => s.toList

/-- The inside of a quoted text is a part of it. -/
theorem mem_of_mem_quotedBody {s body rest : List Char} (h : quotedBody s = some (body, rest)) {c : Char}
    (hc : c ∈ body) : c ∈ s := by
  fun_induction quotedBody s generalizing body rest with
  | case1 => simp at h
  | case2 s =>
      obtain ⟨rfl, -⟩ : body = [] ∧ s = rest := by simpa [eq_comm] using h
      simp at hc
  | case3 => simp at h
  | case4 d s hd ih =>
      obtain ⟨⟨inner, rest'⟩, hinner, heq⟩ := Option.map_eq_some_iff.mp h
      obtain ⟨rfl, rfl⟩ := by simpa using heq
      rcases List.mem_cons.mp hc with rfl | hc
      · simp
      · rcases List.mem_cons.mp hc with rfl | hc
        · simp
        · simp [ih hinner hc]
  | case5 => simp at h
  | case6 d s hquote hslash hd ih =>
      obtain ⟨⟨inner, rest'⟩, hinner, heq⟩ := Option.map_eq_some_iff.mp h
      obtain ⟨rfl, rfl⟩ := by simpa using heq
      rcases List.mem_cons.mp hc with rfl | hc
      · simp
      · simp [ih hinner hc]

/-- The words of a text are written with its characters. -/
theorem mem_of_mem_tokensFrom {s : List Char} {n : Nat} {t : Token} (ht : t ∈ tokensFrom n s) {c : Char}
    (hc : c ∈ t.spelling) : c ∈ s := by
  induction s generalizing n with
  | nil => simp [tokensFrom] at ht
  | cons d s ih =>
      cases n with
      | succ n => exact List.mem_cons_of_mem d (ih ht)
      | zero =>
          simp only [tokensFrom] at ht
          split at ht
          · exact List.mem_cons_of_mem d (ih ht)
          · split at ht
            · rename_i body rest hbody
              rcases List.mem_cons.mp ht with rfl | ht
              · split at hbody
                · exact List.mem_cons_of_mem d
                    (mem_of_mem_quotedBody hbody (by simpa [Token.spelling] using hc))
                · simp at hbody
              · exact List.mem_cons_of_mem d (ih ht)
            · rcases List.mem_cons.mp ht with rfl | ht
              · have hmem : c ∈ (d :: s).takeWhile (!Text.isBlank ·) := by simpa [Token.spelling] using hc
                exact List.takeWhile_subset _ hmem
              · exact List.mem_cons_of_mem d (ih ht)

/-- The values that an environment knows are printed without held characters. -/
def RendersUnheld (env : Environment) : Prop :=
  ∀ path, Unheld (render (env.resolve path)).toList

section

variable {env : Environment} {p : Char → Prop} (henv : ∀ path, ∀ c ∈ (render (env.resolve path)).toList, p c)

include henv

/-- A word stands for a value of the environment or for its own spelling. -/
theorem Token.value_all {t : Token} (ht : ∀ c ∈ t.spelling, p c) : ∀ c ∈ (render (t.value env)).toList, p c := by
  cases t with
  | literal s => simpa [Token.value, render, Datum.printed, Token.spelling] using ht
  | word s =>
      by_cases hs : Text.startsWith s "." = true
      · simpa [Token.value, hs] using henv s
      · simpa [Token.value, hs, render, Datum.printed, Token.spelling] using ht

theorem firstTruthy_all {args : List Token} (hargs : ∀ t ∈ args, ∀ c ∈ t.spelling, p c) :
    ∀ c ∈ (firstTruthy env args).toList, p c := by
  induction args with
  | nil => simp [firstTruthy]
  | cons t args ih =>
      simp only [firstTruthy]
      split
      · exact t.value_all henv (hargs t (by simp))
      · exact ih fun u hu => hargs u (by simp [hu])

theorem lastTruthy_all {args : List Token} (hargs : ∀ t ∈ args, ∀ c ∈ t.spelling, p c) {last : Datum}
    (hlast : ∀ c ∈ (render last).toList, p c) : ∀ c ∈ (lastTruthy env last args).toList, p c := by
  induction args generalizing last with
  | nil => exact hlast
  | cons t args ih =>
      simp only [lastTruthy]
      split
      · exact ih (fun u hu => hargs u (by simp [hu])) (t.value_all henv (hargs t (by simp)))
      · simp

omit henv in
/-- The items of a printed list are printed with the characters that the list is printed with. -/
theorem joined_all {xs : List Datum} (hxs : ∀ c ∈ (render (.list xs)).toList, p c) {sep : String}
    (hsep : ∀ c ∈ sep.toList, p c) : ∀ c ∈ (sep.intercalate (renderAll xs)).toList, p c := by
  intro c hc
  rw [String.toList_intercalate] at hc
  rcases Text.mem_intercalate hc with hc | ⟨part, hpart, hc⟩
  · exact hsep c hc
  · refine hxs c ?_
    rw [render, String.toList_intercalate]
    exact Text.mem_intercalate_of_mem hpart hc

/-- **What holds of the characters of an action and of all values holds of its text**, where it holds of the letters of
the truth values. -/
theorem action?_all (htruth : ∀ c ∈ "true".toList ++ "false".toList, p c) {s : List Char} (hs : ∀ c ∈ s, p c)
    {text : String} (htext : action? env s = some text) : ∀ c ∈ text.toList, p c := by
  have hspelling : ∀ t ∈ tokens s, ∀ c ∈ t.spelling, p c :=
    fun t ht c hc => hs c (mem_of_mem_tokensFrom ht hc)
  have htrue : ∀ c ∈ "true".toList, p c := fun c hc => htruth c (List.mem_append_left _ hc)
  have hfalse : ∀ c ∈ "false".toList, p c := fun c hc => htruth c (List.mem_append_right _ hc)
  have hform : ActionForm (tokens s) := action?_isSome_iff.mp (by rw [htext]; rfl)
  unfold action? at htext
  generalize tokens s = words at hform hspelling htext
  cases hform with
  | quoted t =>
      obtain rfl : t = text := by simpa using htext
      exact hspelling (.literal t) (by simp)
  | named h =>
      obtain rfl : render (Token.value env (.word _)) = text := by simpa [h] using htext
      exact Token.value_all henv (hspelling _ (by simp))
  | anyOf args h =>
      obtain rfl : firstTruthy env args = text := by simpa [h, Text.startsWith, Text.begins, Text.after?] using htext
      exact firstTruthy_all henv fun t ht => hspelling t (by simp [ht])
  | allOf args h =>
      obtain rfl : lastTruthy env (.text "") args = text := by
        simpa [h, Text.startsWith, Text.begins, Text.after?] using htext
      exact lastTruthy_all henv (fun t ht => hspelling t (by simp [ht])) (by simp [render, Datum.printed])
  | alike a b =>
      have hchosen : (if render (a.value env) = render (b.value env) then "true" else "false") = text := by
        simpa [Text.startsWith, Text.begins, Text.after?, compare?] using htext
      rw [← hchosen]
      split
      · exact htrue
      · exact hfalse
  | unlike a b =>
      have hchosen : (if render (a.value env) = render (b.value env) then "false" else "true") = text := by
        simpa [Text.startsWith, Text.begins, Text.after?, compare?] using htext
      rw [← hchosen]
      split
      · exact hfalse
      · exact htrue
  | joined value sep =>
      have hvalue := value.value_all henv (hspelling value (by simp))
      have hsep := sep.value_all henv (hspelling sep (by simp))
      cases hlist : value.value env with
      | list xs =>
          obtain rfl : (render (sep.value env)).intercalate (renderAll xs) = text := by
            simpa [Text.startsWith, Text.begins, Text.after?, hlist] using htext
          exact joined_all (hlist ▸ hvalue) hsep
      | _ =>
          obtain rfl : render (value.value env) = text := by
            simpa [Text.startsWith, Text.begins, Text.after?, hlist] using htext
          exact hvalue

end

variable {env : Environment}

/-- **Actions keep held characters out.**  The text of an action without them, over values without them, has
none either. -/
theorem action?_unheld (henv : RendersUnheld env) {s : List Char} (hs : Unheld s) {text : String}
    (htext : action? env s = some text) : Unheld text.toList :=
  action?_all henv (by decide) hs htext

/-- What a path leads to is what some variable holds or stands inside it. -/
theorem mem_entries_of_lookup? {path : String} {v : Datum} (h : env.lookup? path = some v) :
    ∃ entry ∈ env.entries, v = entry.2 ∨ ∃ parts, Environment.walk entry.2 parts = some v := by
  have hget : ∀ {name v}, env.get? name = some v → ∃ entry ∈ env.entries, v = entry.2 := by
    intro name v hv
    obtain ⟨entry, hentry, rfl⟩ := Option.map_eq_some_iff.mp hv
    exact ⟨entry, List.mem_of_find?_eq_some hentry, rfl⟩
  simp only [Environment.lookup?] at h
  split at h
  · simp at h
  · split at h
    · rename_i w hw
      obtain rfl := by simpa using h
      obtain ⟨entry, hentry, hv⟩ := hget hw
      exact ⟨entry, hentry, .inl hv⟩
    · split at h
      · simp at h
      · split at h
        · simp at h
        · rename_i w hw
          obtain ⟨entry, hentry, rfl⟩ := hget hw
          split at h
          · obtain rfl := by simpa using h
            exact ⟨entry, hentry, .inl rfl⟩
          · exact ⟨entry, hentry, .inr ⟨_, h⟩⟩

/-- Variables that hold texts are all there is to print. -/
theorem render_resolve_of_texts {p : Char → Prop} (values : List (String × String))
    (h : ∀ v ∈ values, ∀ c ∈ v.2.toList, p c) (path : String) :
    ∀ c ∈ (render (Environment.resolve ⟨values.map fun v => (v.1, .text v.2)⟩ path)).toList, p c := by
  unfold Environment.resolve
  cases hlookup : Environment.lookup? ⟨values.map fun v => (v.1, .text v.2)⟩ path with
  | none => simp [render, Datum.printed]
  | some v =>
      obtain ⟨entry, hentry, hv⟩ := mem_entries_of_lookup? hlookup
      obtain ⟨value, hvalue, rfl⟩ := List.mem_map.mp hentry
      have hv : v = .text value.2 := by
        rcases hv with hv | ⟨parts, hparts⟩
        · exact hv
        · cases parts with
          | nil => simpa [Environment.walk, eq_comm] using hparts
          | cons part parts => simp [Environment.walk, Datum.get?] at hparts
      rw [hv]
      simpa [render, Datum.printed] using h value hvalue

theorem rendersUnheld_of_texts (values : List (String × String)) (h : ∀ v ∈ values, Unheld v.2.toList) :
    RendersUnheld ⟨values.map fun v => (v.1, .text v.2)⟩ :=
  render_resolve_of_texts values h

/-- **Holding is undone by releasing**, for a text without held characters. -/
theorem map_release_map_hold {s : List Char} (hs : Unheld s) : (s.map hold).map release = s := by
  rw [List.map_map]
  conv => rhs; rw [← List.map_id s]
  refine List.map_congr_left fun c hc => ?_
  obtain ⟨hopen, hclose⟩ := hs c hc
  by_cases h1 : c = '\x7b'
  · subst h1; rfl
  · by_cases h2 : c = '\x7d'
    · subst h2; rfl
    · simp [hold, release, h1, h2, hopen, hclose]

/-- A text without held characters is released as it is. -/
theorem map_release_of_unheld {s : List Char} (hs : Unheld s) : s.map release = s := by
  conv => rhs; rw [← List.map_id s]
  refine List.map_congr_left fun c hc => ?_
  obtain ⟨hopen, hclose⟩ := hs c hc
  simp [release, hopen, hclose]

/-- No brace is left of a text that is held. -/
theorem isBrace_hold (c : Char) : isBrace (hold c) = false := by
  by_cases h1 : c = '\x7b'
  · subst h1; rfl
  · by_cases h2 : c = '\x7d'
    · subst h2; rfl
    · simp [hold, isBrace, h1, h2]

end MetaSearch.Template
