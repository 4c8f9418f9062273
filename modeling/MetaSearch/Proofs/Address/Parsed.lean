import MetaSearch.Address.Target
import MetaSearch.Proofs.Text.Parts

/-!
# What is read of an address

`parse` cuts an address at the first marks of each kind.  `Target.parse_eq` says what becomes of the query: it is what
stands behind the first question mark, up to a number sign, wherever that is in the text, because the scheme, the authority
and the path hold no such mark.  A scheme does not begin with a slash (`Target.head?_scheme`).
-/

namespace MetaSearch.Target

/-- A character that ends neither an authority nor a path. -/
def IsUnmarked (c : Char) : Prop := c ≠ '?' ∧ c ≠ '#'

instance : DecidablePred IsUnmarked := fun c => inferInstanceAs (Decidable (c ≠ '?' ∧ c ≠ '#'))

/-- The query of an address as it is written: what stands behind the first question mark, up to a number sign. -/
def writtenQuery? (s : List Char) : Option (List Char) :=
  (queryFront (s.dropWhile fun c => c != '?' && c != '#')).1

/-- The query is in what is left of a text behind anything without marks. -/
theorem writtenQuery?_append {front : List Char} (h : ∀ c ∈ front, IsUnmarked c) (s : List Char) :
    writtenQuery? (front ++ s) = writtenQuery? s := by
  have hfront : (front ++ s).dropWhile (fun c => c != '?' && c != '#') = s.dropWhile fun c => c != '?' && c != '#' :=
    List.dropWhile_append_of_pos (by simpa [IsUnmarked] using h)
  rw [writtenQuery?, hfront, writtenQuery?]

/-- What stands before the first colon of a text, and behind it. -/
theorem colon_of_drop {s rest : List Char} {colon : Char}
    (h : s.drop (s.takeWhile (· != ':')).length = colon :: rest) :
    s = s.takeWhile (· != ':') ++ ':' :: rest := by
  rw [Text.drop_length_takeWhile] at h
  have hcolon : colon = ':' := by simpa [h] using List.head?_dropWhile_not (· != ':') s
  rw [hcolon] at h
  rw [← h, List.takeWhile_append_dropWhile]

/-- The characters of schemes end neither an authority nor a path. -/
theorem isUnmarked_of_scheme {c : Char} (h : (c.isAlphanum || c == '+' || c == '.' || c == '-') = true) :
    IsUnmarked c := by
  constructor <;> rintro rfl <;> revert h <;> decide

/-- A scheme stands at the front of its text without marks, and it begins with a letter. -/
theorem schemeParts_front (s : List Char) :
    (∃ front, s = front ++ (schemeParts s).2 ∧ ∀ c ∈ front, IsUnmarked c) ∧
      ∀ c ∈ (schemeParts s).1.toList.head?, c.isAlpha = true := by
  simp only [schemeParts]
  split
  · rename_i colon rest c front hrest hfront
    split
    · rename_i hscheme
      have hwhole := colon_of_drop hrest
      rw [hfront] at hwhole
      rw [hfront, Bool.and_eq_true, List.all_eq_true] at hscheme
      refine ⟨⟨c :: front ++ [':'], by simpa using hwhole, ?_⟩, by simpa [hfront] using hscheme.1⟩
      intro d hd
      rcases List.mem_append.mp hd with hd | hd
      · exact isUnmarked_of_scheme (hscheme.2 d hd)
      · rw [List.mem_singleton.mp hd]
        decide
    · exact ⟨⟨[], rfl, by simp⟩, by simp⟩
  · rename_i colon rest hrest hfront
    have hwhole := colon_of_drop hrest
    rw [hfront] at hwhole
    refine ⟨⟨[':'], by simpa using hwhole, ?_⟩, by simp⟩
    intro d hd
    rw [List.mem_singleton.mp hd]
    decide
  · exact ⟨⟨[], rfl, by simp⟩, by simp⟩

/-- An authority stands at the front of its text, and neither it nor what stands before it has marks. -/
theorem authorityFront_front (s : List Char) :
    (∃ front, s = front ++ (Reference.authorityFront s).2 ∧ ∀ c ∈ front, IsUnmarked c) ∧
      ∀ c ∈ (Reference.authorityFront s).1.toList, IsUnmarked c := by
  unfold Reference.authorityFront
  split
  · rename_i r
    have hfree : ∀ c ∈ r.takeWhile (fun c => c != '/' && c != '?' && c != '#'), IsUnmarked c := by
      intro c hc
      have hc := Text.of_mem_takeWhile hc
      simp only [Bool.and_eq_true, bne_iff_ne] at hc
      exact ⟨hc.1.2, hc.2⟩
    refine ⟨⟨'/' :: '/' :: r.takeWhile fun c => c != '/' && c != '?' && c != '#', ?_, ?_⟩, by simpa using hfree⟩
    · simp only [Text.drop_length_takeWhile, List.cons_append, List.takeWhile_append_dropWhile]
    · intro c hc
      rcases List.mem_cons.mp hc with rfl | hc
      · decide
      · rcases List.mem_cons.mp hc with rfl | hc
        · decide
        · exact hfree c hc
  · exact ⟨⟨[], rfl, by simp⟩, by simp⟩

/-- What is read of an address for its scheme and its query. -/
theorem parse_eq {text : String} {t : Target} (h : parse text = .ok t) :
    t.scheme = String.ofList ((schemeParts text.toList).1.toList.map Char.toLower) ∧
    t.query = (writtenQuery? text.toList).map fun q => String.ofList (encodeRest isQueryChar q) := by
  obtain ⟨⟨front, hfront, hmarks⟩, -⟩ := schemeParts_front text.toList
  obtain ⟨⟨front', hfront', hmarks'⟩, -⟩ := authorityFront_front (schemeParts text.toList).2
  have hquery : writtenQuery? text.toList = writtenQuery? (Reference.authorityFront (schemeParts text.toList).2).2 := by
    calc writtenQuery? text.toList = writtenQuery? (schemeParts text.toList).2 := by
          conv => lhs; rw [hfront]
          exact writtenQuery?_append hmarks _
      _ = writtenQuery? (Reference.authorityFront (schemeParts text.toList).2).2 := by
          conv => lhs; rw [hfront']
          exact writtenQuery?_append hmarks' _
  rw [hquery]
  simp only [parse, bind, Except.bind, throw, throwThe, MonadExceptOf.throw, pure, Except.pure] at h
  split at h
  · simp at h
  · split at h
    · simp at h
    · split at h
      · simp at h
      · split at h
        · simp at h
        · split at h
          · simp at h
          · rw [← Except.ok.inj h, Text.drop_length_takeWhile]
            exact ⟨rfl, rfl⟩

/-- A character in small is no sign that it was not before. -/
theorem toLower_ne {c sign : Char} (hsign : ¬ (97 ≤ sign.toNat ∧ sign.toNat ≤ 122)) (h : c ≠ sign) :
    c.toLower ≠ sign := by
  intro heq
  unfold Char.toLower at heq
  split at heq
  · rename_i hupper
    have hrange : 65 ≤ c.toNat ∧ c.toNat ≤ 90 := hupper
    have hval : c.val + ('a'.val - 'A'.val) = sign.val := congrArg Char.val heq
    have hnat : (c.toNat + 32) % 2 ^ 32 = sign.toNat := congrArg UInt32.toNat hval
    omega
  · exact h heq

/-- An address that is read has no slash at the front of its scheme. -/
theorem head?_scheme {text : String} {t : Target} (h : parse text = .ok t) : t.scheme.toList.head? ≠ some '/' := by
  rw [(parse_eq h).1, String.toList_ofList, List.head?_map]
  intro hhead
  obtain ⟨c, hc, hslash⟩ := Option.map_eq_some_iff.mp hhead
  have hletter := (schemeParts_front text.toList).2 c hc
  refine toLower_ne (by decide) ?_ hslash
  rintro rfl
  exact absurd hletter (by decide)

/-! ## Texts of addresses -/

/-- A part of an address behind its mark. -/
def markedPart (mark : Char) : Option String → List Char
  | none => []
  | some part => mark :: part.toList

/-- What stands before the path in the text of an address. -/
def front (t : Target) : List Char :=
  (if t.scheme.isEmpty then [] else t.scheme.toList ++ [':']) ++
    if t.authority.isEmpty then [] else '/' :: '/' :: t.authority.toList

/-- The text of an address in its parts. -/
theorem toList_text (t : Target) :
    t.text.toList = t.front ++ (t.path.toList ++ (markedPart '?' t.query ++ markedPart '#' t.fragment)) := by
  have hpart : ∀ (mark : String) (c : Char) (part : Option String), mark.toList = [c] →
      ((part.map (mark ++ ·)).getD "").toList = markedPart c part := by
    intro mark c part hmark
    cases part <;> simp [markedPart, hmark]
  simp only [text, String.toList_append, hpart "?" '?' t.query rfl, hpart "#" '#' t.fragment rfl, front,
    apply_ite String.toList, List.append_assoc]
  rfl

/-- Parts behind one mark are told apart by their texts. -/
theorem markedPart_injective {mark : Char} {a b : Option String} (h : markedPart mark a = markedPart mark b) :
    a = b := by
  cases a <;> cases b <;> simp [markedPart] at h ⊢
  exact String.ext h

/-- Parts behind different marks have one text only where there are none. -/
theorem eq_none_of_markedPart {mark other : Char} (hne : mark ≠ other) {a b : Option String}
    (h : markedPart mark a = markedPart other b) : a = none ∧ b = none := by
  cases a <;> cases b <;> simp [markedPart, hne] at h ⊢

/-- What stands before the path begins with the scheme, or it is an authority behind two slashes, or nothing. -/
theorem front_cases (t : Target) :
    (∃ c rest, t.scheme.toList.head? = some c ∧ t.front = c :: rest) ∨ (∃ rest, t.front = '/' :: '/' :: rest) ∨
      t.front = [] ∧ t.scheme = "" ∧ t.authority = "" := by
  by_cases hscheme : t.scheme = ""
  · by_cases hauthority : t.authority = ""
    · exact .inr (.inr ⟨by simp [front, hscheme, hauthority], hscheme, hauthority⟩)
    · exact .inr (.inl ⟨t.authority.toList, by simp [front, hscheme, hauthority]⟩)
  · obtain ⟨c, rest, hlist⟩ := List.exists_cons_of_ne_nil fun h : t.scheme.toList = [] => hscheme (String.toList_eq_nil_iff.mp h)
    exact .inl ⟨c, _, by rw [hlist]; rfl, by simp [front, hscheme, hlist]; rfl⟩

/-- A path without the slashes at its front, with a query behind it, does not begin with a slash. -/
theorem head?_stripped (path : List Char) (q : Option String) :
    (path.dropWhile (· == '/') ++ markedPart '?' q).head? ≠ some '/' := by
  cases hpath : path.dropWhile (· == '/') with
  | nil => cases q <;> simp [markedPart]
  | cons c rest =>
      have hc := List.head?_dropWhile_not (· == '/') path
      simpa [hpath] using hc

/-- An address without an authority has no part of one. -/
theorem eq_of_authority {t : Target} (h : t.authority = "") : t.userInfo = "" ∧ t.host = "" ∧ t.port = none := by
  have hlist := congrArg String.toList h
  simp only [authority, String.toList_append, String.toList_empty, List.append_eq_nil_iff] at hlist
  obtain ⟨⟨huser, hhost⟩, hport⟩ := hlist
  refine ⟨?_, ?_, ?_⟩
  · by_contra hne
    simp [hne] at huser
  · by_contra hne
    split at hhost
    · simp at hhost
    · exact hne (String.toList_eq_nil_iff.mp hhost)
  · cases hnumber : t.port with
    | none => rfl
    | some n => simp [hnumber] at hport

/-- The path of a rooted address is taken for the path of an address only where that has one slash at its front. -/
theorem stripped_of_eq {path : List Char} {q : Option String} {tail : List Char} (htail : tail.head? ≠ some '/')
    (h : '/' :: (path.dropWhile (· == '/') ++ markedPart '?' q) = path ++ tail) :
    path = '/' :: path.dropWhile (· == '/') ∧ markedPart '?' q = tail := by
  cases path with
  | nil =>
      rw [List.nil_append] at h
      simp [← h] at htail
  | cons c rest =>
      obtain ⟨rfl, hrest⟩ := List.cons.inj h
      have hstripped : ('/' :: rest).dropWhile (· == '/') = rest.dropWhile (· == '/') := by simp
      rw [hstripped] at hrest ⊢
      have hhead := head?_stripped rest q
      rw [hrest] at hhead
      -- behind the first slash there is no other one, so that nothing is taken away there
      have hwhole : rest.dropWhile (· == '/') = rest := by
        cases rest with
        | nil => rfl
        | cons d rest =>
            have hd : d ≠ '/' := by simpa using hhead
            simp [hd]
      rw [hwhole] at hrest ⊢
      exact ⟨rfl, List.append_cancel_left hrest⟩

/-- A relative address that has the text of its rooted form is rooted as it is. -/
theorem rooted_eq_of_parts {t : Target} (hrelative : t.isRelative = true) (hscheme : t.scheme.toList.head? ≠ some '/')
    {q q' : Option String} (hq : q = q' ∨ q' = none)
    (h : '/' :: (t.path.toList.dropWhile (· == '/') ++ markedPart '?' q) =
      t.front ++ (t.path.toList ++ (markedPart '?' q' ++ markedPart '#' t.fragment))) :
    q = q' ∧ t.rooted = t := by
  rcases t.front_cases with ⟨c, rest, hc, hfront⟩ | ⟨rest, hfront⟩ | ⟨hfront, hnone, hauthority⟩
  · rw [hfront] at h
    rw [← (List.cons.inj h).1] at hc
    exact absurd hc hscheme
  · rw [hfront] at h
    have hhead := head?_stripped t.path.toList q
    rw [(List.cons.inj h).2] at hhead
    exact absurd rfl hhead
  · rw [hfront, List.nil_append] at h
    have htail : (markedPart '?' q' ++ markedPart '#' t.fragment).head? ≠ some '/' := by
      cases q' <;> cases t.fragment <;> simp [markedPart]
    obtain ⟨hpath, hrest⟩ := stripped_of_eq htail h
    have hqueries : q = q' ∧ t.fragment = none := by
      rcases hq with rfl | rfl
      · have hnil : markedPart '#' t.fragment = [] := by
          simpa using hrest
        cases hfragment : t.fragment with
        | none => exact ⟨rfl, rfl⟩
        | some f => simp [hfragment, markedPart] at hnil
      · exact eq_none_of_markedPart (by decide) hrest
    obtain ⟨huser, hhost, hport⟩ := eq_of_authority hauthority
    refine ⟨hqueries.1, ?_⟩
    have hslash : "/" ++ String.ofList (t.path.toList.dropWhile (· == '/')) = t.path := by
      apply String.ext
      simpa using hpath.symm
    obtain ⟨scheme, userInfo, host, port, path, query, fragment⟩ := t
    simp only at hnone huser hhost hport hqueries hslash
    simp only [rooted, hslash, hnone, huser, hhost, hport, hqueries.2, ite_self]

/-- **When an address is the same from the root.**  Two addresses are put together from an address that was read, one
of them rooted, with queries of their own that are equal unless the other has none.  They have the same text only when
the queries are equal and the address is rooted as it is. -/
theorem text_rooted_eq_iff {t : Target} (hscheme : t.scheme.toList.head? ≠ some '/') {q q' : Option String}
    (hq : q = q' ∨ q' = none) :
    ({ t.rooted with query := q } : Target).text = ({ t with query := q' } : Target).text ↔
      q = q' ∧ t.rooted = t := by
  constructor
  · intro htext
    have hlist := congrArg String.toList htext
    rw [toList_text, toList_text] at hlist
    by_cases hrelative : t.isRelative = true
    · have hroot : ({ t.rooted with query := q } : Target).front = [] := by
        rw [rooted, if_pos hrelative]
        rfl
      have hpath : ({ t.rooted with query := q } : Target).path.toList =
          '/' :: t.path.toList.dropWhile (· == '/') := by
        rw [rooted, if_pos hrelative]
        simp
      have hnone : ({ t.rooted with query := q } : Target).fragment = none := by
        rw [rooted, if_pos hrelative]
      rw [hroot, hpath, hnone, List.nil_append, List.cons_append] at hlist
      simp only [markedPart, List.append_nil] at hlist
      exact rooted_eq_of_parts hrelative hscheme hq hlist
    · have hrooted : t.rooted = t := by rw [rooted, if_neg hrelative]
      rw [hrooted] at hlist
      refine ⟨?_, hrooted⟩
      have hrest := List.append_cancel_left (List.append_cancel_left hlist)
      exact markedPart_injective (List.append_cancel_right hrest)
  · rintro ⟨rfl, hrooted⟩
    rw [hrooted]

end MetaSearch.Target
