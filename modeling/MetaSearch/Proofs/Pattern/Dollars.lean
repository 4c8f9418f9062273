import Mathlib.Data.List.TakeWhile
import MetaSearch.Pattern.Replacement

/-!
# What replacements with dollars say

A replacement is read from left to right: two dollars are one, a dollar with digits behind it is the group with that number,
a dollar with a name in braces behind it is the group with that name, and everything else stands for itself (`Reads`).  Each
replacement can be read in one way (`exists_reads`, `pieces?_of_reads`).

The form with backslashes says the same: a doubled backslash is read back as one, and a reference keeps its name, because no
name holds a bracket or a backslash.  `fromDollarsFrom_dollarAt?` and the lemmas in front of `pieces?_of_reads` say so for
one step of both readings.
-/

namespace MetaSearch.Pattern

/-! ## Readings -/

/-- What stands behind a dollar that is more than a dollar: another one, a digit, or a name in braces. -/
inductive Refers (digit word : Char → Bool) : List Char → Prop
  | dollar (s : List Char) : Refers digit word ('$' :: s)
  | number {c : Char} (hc : digit c = true) (s : List Char) : Refers digit word (c :: s)
  | name {name : List Char} (hname : name ≠ []) (hword : ∀ c ∈ name, word c = true) (s : List Char) :
      Refers digit word ('\x7b' :: (name ++ '\x7d' :: s))

/-- How a replacement with dollars reads, by what counts as a digit and what may be in a name. -/
inductive Reads (digit word : Char → Bool) : List Char → List Piece → Prop
  | nil : Reads digit word [] []
  | literal {c : Char} {s : List Char} {pieces : List Piece} (hc : c ≠ '$') (h : Reads digit word s pieces) :
      Reads digit word (c :: s) (.literal c :: pieces)
  | dollar {s : List Char} {pieces : List Piece} (h : Reads digit word s pieces) :
      Reads digit word ('$' :: '$' :: s) (.literal '$' :: pieces)
  /-- All digits that follow belong to the number. -/
  | number {ds s : List Char} {pieces : List Piece} (hds : ds ≠ []) (hdigits : ∀ c ∈ ds, digit c = true)
      (hrun : ∀ c ∈ s.head?, digit c = false) (h : Reads digit word s pieces) :
      Reads digit word ('$' :: (ds ++ s)) (.group (String.ofList ds) :: pieces)
  | name {name s : List Char} {pieces : List Piece} (hname : name ≠ []) (hword : ∀ c ∈ name, word c = true)
      (h : Reads digit word s pieces) :
      Reads digit word ('$' :: '\x7b' :: (name ++ '\x7d' :: s)) (.group (String.ofList name) :: pieces)
  /-- A dollar that begins nothing stands for itself. -/
  | bare {s : List Char} {pieces : List Piece} (hbare : ¬ Refers digit word s) (h : Reads digit word s pieces) :
      Reads digit word ('$' :: s) (.literal '$' :: pieces)

/-- Every replacement can be read. -/
theorem exists_reads (digit word : Char → Bool) (s : List Char) : ∃ pieces, Reads digit word s pieces := by
  induction hlength : s.length using Nat.strongRecOn generalizing s with
  | ind n ih =>
      subst hlength
      cases s with
      | nil => exact ⟨[], .nil⟩
      | cons c s =>
          by_cases hc : c = '$'
          · subst hc
            by_cases hrefers : Refers digit word s
            · cases hrefers with
              | dollar r =>
                  obtain ⟨pieces, h⟩ := ih r.length (by simp only [List.length_cons]; omega) r rfl
                  exact ⟨_, .dollar h⟩
              | @number c hc r =>
                  -- the longest run of digits from there on
                  obtain ⟨pieces, h⟩ := ih ((c :: r).dropWhile digit).length (by
                    rw [List.dropWhile_cons_of_pos hc, List.length_cons, List.length_cons]
                    exact Nat.lt_succ_of_le ((List.length_dropWhile_le digit r).trans (Nat.le_succ _))) _ rfl
                  rw [← List.takeWhile_append_dropWhile (p := digit) (l := c :: r)]
                  refine ⟨_, .number (by simp [hc]) (fun d hd => List.mem_takeWhile_imp hd) (fun d hd => ?_) h⟩
                  have hnone := List.head?_dropWhile_not digit (c :: r)
                  rw [hd] at hnone
                  simpa using hnone
              | @name name hname hword r =>
                  obtain ⟨pieces, h⟩ := ih r.length (by simp only [List.length_cons, List.length_append]; omega) r rfl
                  exact ⟨_, .name hname hword h⟩
            · obtain ⟨pieces, h⟩ := ih s.length (by simp) s rfl
              exact ⟨_, .bare hrefers h⟩
          · obtain ⟨pieces, h⟩ := ih s.length (by simp) s rfl
            exact ⟨_, .literal hc h⟩

/-! ## Doubled backslashes -/

/-- What holds of all characters of a text but not of one leaves that one out. -/
theorem not_mem_of_all {p : Char → Bool} {s : List Char} (h : ∀ c ∈ s, p c = true) {d : Char} (hd : p d = false) : d ∉ s := by
  intro hmem
  rw [h d hmem] at hd
  cases hd

theorem doubleBackslashes_cons {c : Char} (hc : c ≠ '\\') (s : List Char) :
    doubleBackslashes (c :: s) = c :: doubleBackslashes s := by
  simp [doubleBackslashes, hc]

theorem doubleBackslashes_backslash (s : List Char) :
    doubleBackslashes ('\\' :: s) = '\\' :: '\\' :: doubleBackslashes s := by
  simp [doubleBackslashes]

/-- What holds no backslash stays. -/
theorem doubleBackslashes_append {front : List Char} (h : '\\' ∉ front) (s : List Char) :
    doubleBackslashes (front ++ s) = front ++ doubleBackslashes s := by
  induction front with
  | nil => rfl
  | cons c front ih =>
      rw [List.mem_cons, not_or] at h
      rw [List.cons_append, doubleBackslashes_cons (Ne.symm h.1), ih h.2, List.cons_append]

/-- What stands at the front of a doubled text without a backslash in it stood there before. -/
theorem exists_of_doubleBackslashes_eq {front s rest : List Char} {c : Char} (hfront : '\\' ∉ front) (hc : c ≠ '\\')
    (h : doubleBackslashes s = front ++ c :: rest) : ∃ r, s = front ++ c :: r := by
  induction front generalizing s with
  | nil =>
      cases s with
      | nil => cases h
      | cons d s =>
          by_cases hd : d = '\\'
          · rw [hd, doubleBackslashes_backslash] at h
            exact absurd (List.cons.inj h).1.symm hc
          · rw [doubleBackslashes_cons hd] at h
            exact ⟨s, by rw [(List.cons.inj h).1]; rfl⟩
  | cons e front ih =>
      rw [List.mem_cons, not_or] at hfront
      cases s with
      | nil => cases h
      | cons d s =>
          by_cases hd : d = '\\'
          · rw [hd, doubleBackslashes_backslash] at h
            exact absurd (List.cons.inj h).1 hfront.1
          · rw [doubleBackslashes_cons hd, List.cons_append] at h
            obtain ⟨hhead, htail⟩ := List.cons.inj h
            obtain ⟨r, rfl⟩ := ih hfront.2 htail
            exact ⟨r, by rw [hhead]; rfl⟩

/-! ## One dollar -/

/-- The digits behind a dollar, up to something that is none, are found in the doubled text. -/
theorem dollarAt?_number {ds s : List Char} (hds : ds ≠ []) (hdigits : ∀ c ∈ ds, Text.isDecimal c = true)
    (hrun : ∀ c ∈ s.head?, Text.isDecimal c = false) :
    dollarAt? (doubleBackslashes (ds ++ s)) = some (.group ds ds.length) := by
  have hstop : (doubleBackslashes s).takeWhile Text.isDecimal = [] := by
    cases s with
    | nil => rfl
    | cons c s =>
        by_cases hc : c = '\\'
        · rw [hc, doubleBackslashes_backslash, List.takeWhile_cons_of_neg (by decide)]
        · rw [doubleBackslashes_cons hc, List.takeWhile_cons_of_neg (by simp [hrun c rfl])]
  have hword : (ds ++ doubleBackslashes s).takeWhile Text.isDecimal = ds := by
    rw [List.takeWhile_append_of_pos hdigits, hstop, List.append_nil]
  rw [doubleBackslashes_append (not_mem_of_all hdigits (by decide))]
  obtain ⟨c, ds, rfl⟩ := List.exists_cons_of_ne_nil hds
  have hother : ∀ {d : Char}, Text.isDecimal d = false → c ≠ d := fun hd heq =>
    not_mem_of_all hdigits hd (heq ▸ List.mem_cons_self)
  have hdollar : c ≠ '$' := hother (by decide)
  have hbrace : c ≠ '\x7b' := hother (by decide)
  rw [List.cons_append] at hword ⊢
  rw [dollarAt?.eq_3 _ (by simpa using hdollar) (by simpa using hbrace), hword]
  rfl

/-- The name in braces behind a dollar is found in the doubled text. -/
theorem dollarAt?_name {name : List Char} (hname : name ≠ []) (hword : ∀ c ∈ name, Text.isWordChar c = true)
    (s : List Char) :
    dollarAt? (doubleBackslashes ('\x7b' :: (name ++ '\x7d' :: s))) = some (.group name (name.length + 2)) := by
  rw [doubleBackslashes_cons (by decide), doubleBackslashes_append (not_mem_of_all hword (by decide)),
    doubleBackslashes_cons (by decide), dollarAt?]
  simp only [List.takeWhile_append_of_pos hword, List.takeWhile_cons_of_neg (show ¬ Text.isWordChar '\x7d' = true by decide),
    List.append_nil, List.drop_left, List.isEmpty_eq_false_iff.mpr hname]
  rfl

/-- A dollar that is found to be more than a dollar in the doubled text has something behind it. -/
theorem refers_of_dollarAt? {s : List Char} {d : Dollar} (h : dollarAt? (doubleBackslashes s) = some d) :
    Refers Text.isDecimal Text.isWordChar s := by
  cases s with
  | nil => cases h
  | cons c s =>
      by_cases hc : c = '\\'
      · rw [hc, doubleBackslashes_backslash] at h
        cases h
      · rw [doubleBackslashes_cons hc] at h
        unfold dollarAt? at h
        split at h
        · rename_i heq
          obtain ⟨rfl, -⟩ := List.cons.inj heq
          exact .dollar s
        · rename_i r heq
          obtain ⟨rfl, rfl⟩ := List.cons.inj heq
          have hword : ∀ c ∈ (doubleBackslashes s).takeWhile Text.isWordChar, Text.isWordChar c = true := fun c hmem =>
            List.mem_takeWhile_imp hmem
          dsimp only at h
          split at h
          · rename_i rest hrest
            split at h
            · cases h
            · rename_i hempty
              have hsplit : doubleBackslashes s = (doubleBackslashes s).takeWhile Text.isWordChar ++ '\x7d' :: rest := by
                rw [← hrest]
                exact (List.prefix_iff_eq_append.mp (List.takeWhile_prefix Text.isWordChar)).symm
              obtain ⟨r, hr⟩ := exists_of_doubleBackslashes_eq (not_mem_of_all hword (by decide)) (by decide) hsplit
              rw [hr]
              exact .name (by simpa using hempty) hword r
          · cases h
        · dsimp only at h
          split at h
          · cases h
          · rename_i hempty
            refine .number ?_ s
            by_contra hdigit
            exact hempty (by rw [List.takeWhile_cons_of_neg hdigit]; rfl)

/-! ## Both readings, step by step -/

theorem fromDollarsFrom_drop (n : Nat) (s : List Char) : fromDollarsFrom n s = fromDollarsFrom 0 (s.drop n) := by
  induction s generalizing n with
  | nil => simp [fromDollarsFrom]
  | cons c s ih =>
      cases n with
      | zero => rfl
      | succ n => rw [fromDollarsFrom, ih, List.drop_succ_cons]

theorem piecesFrom?_drop (n : Nat) (s : List Char) : piecesFrom? n s = piecesFrom? 0 (s.drop n) := by
  induction s generalizing n with
  | nil => simp [piecesFrom?]
  | cons c s ih =>
      cases n with
      | zero => rfl
      | succ n => rw [piecesFrom?, ih, List.drop_succ_cons]

/-- What stands for itself is read back as itself. -/
theorem piecesFrom?_literal {c : Char} (hc : c ≠ '\\') (s : List Char) :
    piecesFrom? 0 (c :: s) = (piecesFrom? 0 s).map (.literal c :: ·) := by
  simp [piecesFrom?, hc]

/-- A doubled backslash is read back as one. -/
theorem piecesFrom?_backslash (s : List Char) :
    piecesFrom? 0 ('\\' :: '\\' :: s) = (piecesFrom? 0 s).map (.literal '\\' :: ·) := by
  rw [piecesFrom?]
  simp only [beq_self_eq_true, if_true]
  rw [piecesFrom?_drop 1, List.drop_one, List.tail_cons]

/-- A reference is read back by its name. -/
theorem piecesFrom?_group {name : List Char} (hname : name ≠ []) (hbracket : '>' ∉ name) (s : List Char) :
    piecesFrom? 0 ('\\' :: 'g' :: '<' :: (name ++ '>' :: s)) =
      (piecesFrom? 0 s).map (.group (String.ofList name) :: ·) := by
  have hstop : (name ++ '>' :: s).takeWhile (· != '>') = name := by
    rw [List.takeWhile_append_of_pos fun c hc => by
      simpa using fun heq : c = '>' => hbracket (heq ▸ hc),
      List.takeWhile_cons_of_neg (by simp), List.append_nil]
  have hbracketed : bracketed? ('<' :: (name ++ '>' :: s)) = some name := by
    simp [bracketed?, hstop, hname]
  have hdrop : ('g' :: '<' :: (name ++ '>' :: s)).drop (name.length + 3) = s := by
    rw [List.drop_succ_cons, List.drop_succ_cons, List.drop_append, List.drop_of_length_le (Nat.le_succ _),
      Nat.add_sub_cancel_left]
    rfl
  rw [piecesFrom?]
  simp only [beq_self_eq_true, if_true, hbracketed]
  rw [piecesFrom?_drop, hdrop]

/-- **The form with backslashes says what the form with dollars reads.** -/
theorem pieces?_of_reads {s : List Char} {pieces : List Piece} (h : Reads Text.isDecimal Text.isWordChar s pieces) :
    pieces? (fromDollars s) = some pieces := by
  rw [pieces?, fromDollars]
  induction h with
  | nil => rfl
  | @literal c s pieces hc h ih =>
      by_cases hback : c = '\\'
      · rw [hback, doubleBackslashes_backslash]
        simp [fromDollarsFrom, piecesFrom?_backslash, ih]
      · rw [doubleBackslashes_cons hback]
        simp [fromDollarsFrom, hc, piecesFrom?_literal hback, ih]
  | @dollar s pieces h ih =>
      rw [doubleBackslashes_cons (by decide), doubleBackslashes_cons (by decide), fromDollarsFrom]
      simp only [beq_self_eq_true, if_true, dollarAt?]
      rw [fromDollarsFrom_drop 1, List.drop_one, List.tail_cons, piecesFrom?_literal (by decide), ih]
      rfl
  | @number ds s pieces hds hdigits hrun h ih =>
      have hplain : '\\' ∉ ds := not_mem_of_all hdigits (by decide)
      rw [doubleBackslashes_cons (by decide), fromDollarsFrom]
      simp only [beq_self_eq_true, if_true, dollarAt?_number hds hdigits hrun]
      rw [fromDollarsFrom_drop, doubleBackslashes_append hplain, List.drop_left,
        piecesFrom?_group hds (not_mem_of_all hdigits (by decide)), ih]
      rfl
  | @name name s pieces hname hword h ih =>
      have hplain : '\\' ∉ name := not_mem_of_all hword (by decide)
      have hdrop : (doubleBackslashes ('\x7b' :: (name ++ '\x7d' :: s))).drop (name.length + 2) = doubleBackslashes s := by
        rw [doubleBackslashes_cons (by decide), doubleBackslashes_append hplain, doubleBackslashes_cons (by decide),
          List.drop_succ_cons, List.drop_append, List.drop_of_length_le (Nat.le_succ _), Nat.add_sub_cancel_left]
        rfl
      rw [doubleBackslashes_cons (by decide), fromDollarsFrom]
      simp only [beq_self_eq_true, if_true, dollarAt?_name hname hword]
      rw [fromDollarsFrom_drop, hdrop, piecesFrom?_group hname (not_mem_of_all hword (by decide)), ih]
      rfl
  | @bare s pieces hbare h ih =>
      have hnone : dollarAt? (doubleBackslashes s) = none :=
        Option.eq_none_iff_forall_ne_some.mpr fun d hd => hbare (refers_of_dollarAt? hd)
      rw [doubleBackslashes_cons (by decide), fromDollarsFrom]
      simp only [beq_self_eq_true, if_true, hnone]
      rw [piecesFrom?_literal (by decide), ih]
      rfl

/-- A replacement can be read in one way only. -/
theorem eq_of_reads {s : List Char} {pieces others : List Piece} (h : Reads Text.isDecimal Text.isWordChar s pieces)
    (hothers : Reads Text.isDecimal Text.isWordChar s others) : others = pieces :=
  Option.some.inj ((pieces?_of_reads hothers).symm.trans (pieces?_of_reads h))

/-! ## Replacing -/

/-- What a piece of a replacement stands for at a match: itself, or the text of its group. -/
def Program.shown (p : Program) (text : Array Char) (m : Match) : Piece → String
  | .literal c => String.singleton c
  | .group name => ((p.groupNumber? name).map (m.group text)).getD ""

/-- A piece whose group is there is found, and stands in front of the others for what it shows. -/
theorem exists_resolve? {p : Program} {piece : Piece}
    (h : ∀ name, piece = .group name → (p.groupNumber? name).isSome = true) :
    ∃ found, p.resolve? piece = some found ∧
      ∀ others text m, expand (found :: others) text m = p.shown text m piece ++ expand others text m := by
  cases piece with
  | literal c => exact ⟨.inl c, rfl, fun _ _ _ => String.join_cons⟩
  | group name =>
      obtain ⟨n, hn⟩ := Option.isSome_iff_exists.mp (h name rfl)
      refine ⟨.inr n, by simp [Program.resolve?, hn], fun others text m => ?_⟩
      rw [Program.shown, hn]
      exact String.join_cons

/-- Pieces whose groups are there are found, and what is found stands for what the pieces show. -/
theorem exists_resolved {p : Program} {pieces : List Piece}
    (h : ∀ name, .group name ∈ pieces → (p.groupNumber? name).isSome = true) :
    ∃ resolved, pieces.mapM p.resolve? = some resolved ∧
      ∀ text m, expand resolved text m = String.join (pieces.map (p.shown text m)) := by
  induction pieces with
  | nil => exact ⟨[], rfl, fun _ _ => rfl⟩
  | cons piece pieces ih =>
      obtain ⟨resolved, hresolved, hshown⟩ := ih fun name hmem => h name (List.mem_cons_of_mem piece hmem)
      obtain ⟨found, hfound, hexpand⟩ := @exists_resolve? p piece fun name heq => h name (heq ▸ List.mem_cons_self)
      refine ⟨found :: resolved, by simp [hfound, hresolved], fun text m => ?_⟩
      rw [hexpand, hshown, List.map_cons, String.join_cons]

/-- **A replacement with dollars keeps its meaning.**  It can be read in one way, and where the groups that it refers to are
there, every match is replaced by what it reads as. -/
theorem substitute?_dollars (p : Program) (replacement text : String) :
    ∃ pieces, (∀ others, Reads Text.isDecimal Text.isWordChar replacement.toList others ↔ others = pieces) ∧
      ((∀ name, .group name ∈ pieces → (p.groupNumber? name).isSome = true) →
        p.substitute? replacement text =
          some (p.replaceAll text fun cs m => String.join (pieces.map (p.shown cs m)))) := by
  obtain ⟨pieces, hreads⟩ := exists_reads Text.isDecimal Text.isWordChar replacement.toList
  refine ⟨pieces, fun others => ⟨eq_of_reads hreads, fun heq => heq ▸ hreads⟩, fun hgroups => ?_⟩
  obtain ⟨resolved, hresolved, hshown⟩ := exists_resolved hgroups
  have hexpand : expand resolved = fun cs m => String.join (pieces.map (p.shown cs m)) := funext₂ hshown
  simp only [Program.substitute?, pieces?_of_reads hreads, hresolved, hexpand, Option.bind_eq_bind, Option.bind_some]

/-- A backslash, a doubled dollar, a reference of either kind, one of them to a group that takes no part in the match, and
a dollar that begins nothing. -/
theorem substitute?_dollars_each_form :
    ∃ p pieces, read? "(b)|(c)" = some p ∧
      Reads Text.isDecimal Text.isWordChar "\\$$$1\\$\x7b2\x7d$x".toList pieces ∧
      (∀ name, .group name ∈ pieces → (p.groupNumber? name).isSome = true) ∧
      p.substitute? "\\$$$1\\$\x7b2\x7d$x" "abc" =
        some (p.replaceAll "abc" fun cs m => String.join (pieces.map (p.shown cs m))) ∧
      p.substitute? "\\$$$1\\$\x7b2\x7d$x" "abc" = some "a\\$b\\$x\\$\\c$x" := by
  obtain ⟨pieces, hreads, hsays⟩ :=
    substitute?_dollars ((read? "(b)|(c)").getD default) "\\$$$1\\$\x7b2\x7d$x" "abc"
  have hread : read? "(b)|(c)" = some ((read? "(b)|(c)").getD default) := by
    obtain ⟨p, hp⟩ := Option.isSome_iff_exists.mp (show (read? "(b)|(c)").isSome = true by decide +kernel)
    rw [hp, Option.getD_some]
  have hpieces : Reads Text.isDecimal Text.isWordChar "\\$$$1\\$\x7b2\x7d$x".toList
      [.literal '\\', .literal '$', .group "1", .literal '\\', .group "2", .literal '$', .literal 'x'] := by
    have hone : ∀ c ∈ ['1'], Text.isDecimal c = true := List.forall_mem_singleton.mpr (by decide)
    have htwo : ∀ c ∈ ['2'], Text.isWordChar c = true := List.forall_mem_singleton.mpr (by decide)
    have hrun : ∀ c ∈ some '\\', Text.isDecimal c = false := fun c hc => Option.some.inj hc ▸ (by decide)
    refine .literal (by decide) <| .dollar <| .number (List.cons_ne_nil _ _) hone hrun <|
      .literal (by decide) <| .name (List.cons_ne_nil _ _) htwo <| .bare ?_ <| .literal (by decide) .nil
    rintro (_ | hc)
    exact absurd hc (by decide)
  obtain rfl := (hreads _).mp hpieces
  have hgroups : ∀ name, .group name ∈ ([.literal '\\', .literal '$', .group "1", .literal '\\', .group "2", .literal '$',
      .literal 'x'] : List Piece) → (((read? "(b)|(c)").getD default).groupNumber? name).isSome = true := by
    intro name hmem
    obtain rfl | rfl : name = "1" ∨ name = "2" := by simpa using hmem
    · decide +kernel
    · decide +kernel
  exact ⟨_, _, hread, hpieces, hgroups, hsays hgroups, by decide +kernel⟩

/-- **Digits and names are those of every script.**  By the English ones alone the replacement would stand for itself, but it
refers to a group of the pattern. -/
theorem substitute?_accented_name :
    Reads Char.isDigit (fun c => c.isAlphanum || c == '_') "<$\x7bé\x7d>".toList
        ("<$\x7bé\x7d>".toList.map .literal) ∧
      (read? "(?P<é>b)").bind (·.substitute? "<$\x7bé\x7d>" "abc") = some "a<b>c" ∧
      (read? "(?P<é>b)").map (fun p => p.replaceAll "abc" fun cs m =>
        String.join (("<$\x7bé\x7d>".toList.map Piece.literal).map (p.shown cs m))) = some "a<$\x7bé\x7d>c" := by
  have hchars : "<$\x7bé\x7d>".toList = ['<', '$', '\x7b', 'é', '\x7d', '>'] := by decide
  have hbare : ¬ Refers Char.isDigit (fun c => c.isAlphanum || c == '_') ['\x7b', 'é', '\x7d', '>'] := by
    generalize hs : ['\x7b', 'é', '\x7d', '>'] = s
    intro h
    cases h with
    | dollar s => exact absurd (List.cons.inj hs).1 (by decide)
    | number hc s =>
        rw [← (List.cons.inj hs).1] at hc
        exact absurd hc (by decide)
    | @name name hname hword s =>
        obtain ⟨c, name, rfl⟩ := List.exists_cons_of_ne_nil hname
        have hc := hword c List.mem_cons_self
        rw [List.cons_append] at hs
        rw [← (List.cons.inj (List.cons.inj hs).2).1] at hc
        exact absurd hc (by decide)
  refine ⟨?_, by decide +kernel, by decide +kernel⟩
  rw [hchars]
  exact .literal (by decide) <| .bare hbare <| .literal (by decide) <| .literal (by decide) <| .literal (by decide) <|
    .literal (by decide) .nil

end MetaSearch.Pattern
