import MetaSearch.Proofs.Address.Absolute
import MetaSearch.Proofs.Address.Percent
import MetaSearch.Proofs.Text.Trimmed

/-!
# Paths of plain segments

A path of plain segments is resolved against the link of a site by being put behind it, segment for segment.

* `Reference.isPlain` are the characters that no rule on references looks at, and `Reference.IsSegment` the parts of
  paths that consist of them and are no dots.
* `Reference.Trail` is a path of such segments, and `Reference.Origin` a web address without anything behind its host.
  `absolute_trail` says what becomes of the one under the other, and `parse?_link` how it is read again.
* `Percent.isSegment_quote` says that a quoted text is a segment, whatever it is, unless it is nothing or dots.
-/

namespace MetaSearch

namespace Text

/-- A code point is a mark only where it is the mark's. -/
theorem ofNat_ne {n : Nat} {mark : Char} (hmark : mark.toNat ≠ 0) (h : n ≠ mark.toNat) : Char.ofNat n ≠ mark := by
  rintro rfl
  by_cases hvalid : n.isValidChar
  · exact h (by rw [Char.toNat, Char.ofNat, dif_pos hvalid]; rfl)
  · exact hmark (by rw [Char.toNat, Char.ofNat, dif_neg hvalid]; rfl)

/-- Small letters beyond ASCII are no ASCII marks. -/
theorem lowerChar_ne_colon {c : Char} (h : c ≠ ':') : lowerChar c ≠ ':' := by
  rw [lowerChar]
  split
  · exact Target.toLower_ne (by decide) h
  · cases himage : segmentImage? lowerSegments c.toNat with
    | none => exact h
    | some image =>
        rw [segmentImage?] at himage
        obtain ⟨⟨first, last, step, start⟩, hfound, rfl⟩ := Option.map_eq_some_iff.mp himage
        have hall : (lowerSegments.toList.all fun segment => 58 < segment.2.2.2) = true := by decide +kernel
        have hstart : 58 < start := by
          have hmem := Array.mem_toList_iff.mpr (Array.mem_of_find?_eq_some hfound)
          simpa using List.all_eq_true.mp hall _ hmem
        refine ofNat_ne (by decide) ?_
        have hcolon : ':'.toNat = 58 := rfl
        have hafter : start + (c.toNat - first) ≠ 58 := by omega
        exact hcolon ▸ hafter

/-- Small letters bring no colon into a text. -/
theorem colon_not_mem_lowerFrom {before s : List Char} (h : ':' ∉ s) : ':' ∉ lowerFrom before s := by
  induction s generalizing before with
  | nil => exact h
  | cons c s ih =>
      rw [List.mem_cons, not_or] at h
      rw [lowerFrom, List.mem_append, not_or]
      refine ⟨?_, ih h.2⟩
      split
      · rw [List.mem_singleton]
        exact (Target.toLower_ne (by decide) (Ne.symm h.1)).symm
      · split
        · split <;> decide
        · split
          · decide
          · rw [List.mem_singleton]
            exact (lowerChar_ne_colon (Ne.symm h.1)).symm

/-- What begins a text is part of it. -/
theorem mem_of_startsWith {s front : String} (h : startsWith s front = true) {c : Char} (hc : c ∈ front.toList) :
    c ∈ s.toList := by
  obtain ⟨rest, hrest⟩ := Option.isSome_iff_exists.mp h
  rw [eq_append_of_after? hrest]
  exact List.mem_append_left rest hc

/-- Numbers that no range has are in no range. -/
theorem not_mem_of_inRanges {ranges : Array (Nat × Nat)} {numbers : List Nat} {n : Nat} (h : inRanges ranges n = true)
    (hfree : (ranges.toList.all fun (first, last) =>
      numbers.all fun n => !(decide (first ≤ n) && decide (n ≤ last))) = true) : n ∉ numbers := by
  intro hmem
  rw [inRanges, ← Array.any_toList] at h
  obtain ⟨⟨first, last⟩, hrange, hin⟩ := List.any_eq_true.mp h
  have hout := List.all_eq_true.mp (List.all_eq_true.mp hfree _ hrange) _ hmem
  simp [hin] at hout

end Text

namespace Reference

/-! ## Plain characters -/

/-- A character that a path passes on as it is: a letter or digit of any script, or a mark without a part in
references. -/
def isPlain (c : Char) : Bool :=
  Text.isWordChar c || "-.~%+".toList.contains c

/-- Plain characters are not others. -/
theorem ne_of_isPlain {c other : Char} (h : isPlain c = true) (hother : isPlain other = false) : c ≠ other := by
  rintro rfl
  rw [h] at hother
  cases hother

/-- A plain character is a letter or digit of ASCII, a mark, or a letter or digit beyond ASCII. -/
theorem isPlain_cases {c : Char} (h : isPlain c = true) :
    c.isAlphanum = true ∨ c ∈ ['_', '-', '.', '~', '%', '+'] ∨ 128 ≤ c.toNat ∧ Text.inRanges Text.wordRanges c.toNat := by
  have hmarks : "-.~%+".toList = ['-', '.', '~', '%', '+'] := rfl
  simp only [isPlain, Text.isWordChar, Text.isAlphanumeric, hmarks, List.contains_iff_mem, Bool.or_eq_true,
    Bool.and_eq_true, decide_eq_true_eq, beq_iff_eq] at h
  rcases h with (rfl | halphanum | hwide) | hmark
  · exact .inr (.inl List.mem_cons_self)
  · exact .inl halphanum
  · exact .inr (.inr hwide)
  · exact .inr (.inl (List.mem_cons_of_mem _ hmark))

/-- Where the letters and digits of ASCII stand. -/
theorem toNat_bounds_of_isAlphanum {c : Char} (h : c.isAlphanum = true) : 48 ≤ c.toNat ∧ c.toNat ≤ 122 := by
  have hbounds : 'A'.toNat = 65 ∧ 'Z'.toNat = 90 ∧ 'a'.toNat = 97 ∧ 'z'.toNat = 122 ∧ '0'.toNat = 48 ∧
      '9'.toNat = 57 := by decide
  unfold Char.isAlphanum Char.isAlpha Char.isUpper Char.isLower Char.isDigit at h
  simp only [Bool.or_eq_true, decide_eq_true_eq, Bool.and_eq_true, UInt32.le_iff_toNat_le, ge_iff_le,
    Char.toNat_val] at h
  omega

/-- A plain character is a visible one of ASCII, or a letter or digit beyond. -/
theorem toNat_of_isPlain {c : Char} (h : isPlain c = true) :
    32 < c.toNat ∧ c.toNat < 127 ∨ 128 ≤ c.toNat ∧ Text.inRanges Text.wordRanges c.toNat := by
  rcases isPlain_cases h with halphanum | hmark | hwide
  · have hbounds := toNat_bounds_of_isAlphanum halphanum
    omega
  · have hmarks : (['_', '-', '.', '~', '%', '+'].all fun d => 32 < d.toNat && d.toNat < 127) = true := by decide
    exact .inl (by simpa using List.all_eq_true.mp hmarks c hmark)
  · exact .inr hwide

/-- Plain characters are no blanks. -/
theorem isBlank_of_isPlain {c : Char} (h : isPlain c = true) : Text.isBlank c = false := by
  by_contra hblank
  simp only [Bool.not_eq_false, Text.isBlank, Bool.or_eq_true, Bool.and_eq_true, decide_eq_true_eq,
    beq_iff_eq] at hblank
  rcases toNat_of_isPlain h with hvisible | ⟨hbeyond, hranges⟩
  · omega
  have hwide : c.toNat ∈ [0x85, 0xA0, 0x1680, 0x2028, 0x2029, 0x202F, 0x205F, 0x3000] ++
      (List.range 11).map (0x2000 + ·) := by
    simp only [List.mem_append, List.mem_cons, List.mem_map, List.mem_range, List.not_mem_nil, or_false]
    rcases hblank with (((((((((_ | _) | _) | _) | _) | hspaces) | _) | _) | _) | _) | _
    case inl.inl.inl.inl.inl.inr => exact .inr ⟨c.toNat - 0x2000, by omega, by omega⟩
    all_goals omega
  exact Text.not_mem_of_inRanges hranges (by decide +kernel) hwide

/-! ## Trails -/

/-- A path that parts no reference: nothing but slashes and plain characters. -/
def IsPathText (path : String) : Prop :=
  ∀ c ∈ path.toList, c = '/' ∨ isPlain c = true

theorem IsPathText.not_mem {path : String} (h : IsPathText path) {other : Char} (hslash : other ≠ '/')
    (hother : isPlain other = false) : other ∉ path.toList := by
  intro hmem
  rcases h other hmem with heq | hplain
  · exact hslash heq
  · exact ne_of_isPlain hplain hother rfl

/-- A part of a path that stands for itself. -/
structure IsSegment (s : String) : Prop where
  plain : ∀ c ∈ s.toList, isPlain c = true
  nonempty : s ≠ ""
  notDot : s ≠ "."
  notDots : s ≠ ".."

/-- A path from where one is to another place further on: its segments, and whether a slash ends it. -/
structure Trail where
  segments : List String
  slashed : Bool
  nonempty : segments ≠ []
  plain : ∀ s ∈ segments, IsSegment s

namespace Trail

/-- The parts of a path between its slashes. -/
def parts (t : Trail) : List String :=
  t.segments ++ if t.slashed then [""] else []

/-- The text of a path. -/
def text (t : Trail) : String :=
  "/".intercalate t.parts

variable (t : Trail)

theorem parts_ne_nil : t.parts ≠ [] :=
  List.append_ne_nil_of_left_ne_nil t.nonempty _

/-- The parts of a path are its segments, and empty behind a slash at its end. -/
theorem mem_parts {part : String} (h : part ∈ t.parts) : part ∈ t.segments ∨ part = "" := by
  rcases List.mem_append.mp h with hsegment | hend
  · exact .inl hsegment
  · split at hend
    · exact .inr (List.mem_singleton.mp hend)
    · cases hend

/-- The parts of a path are plain. -/
theorem isPlain_of_mem_parts {part : String} (h : part ∈ t.parts) {c : Char} (hc : c ∈ part.toList) :
    isPlain c = true := by
  rcases t.mem_parts h with hsegment | rfl
  · exact (t.plain part hsegment).plain c hc
  · cases hc

/-- A path is plain but for its slashes. -/
theorem isPathText : IsPathText t.text := by
  intro c h
  rw [text, String.toList_intercalate] at h
  rcases Text.mem_intercalate h with hslash | ⟨piece, hpiece, hc⟩
  · exact .inl (List.mem_singleton.mp hslash)
  · obtain ⟨part, hpart, rfl⟩ := List.mem_map.mp hpiece
    exact .inr (t.isPlain_of_mem_parts hpart hc)

/-- No part of a path holds a slash. -/
theorem slash_not_mem {part : String} (h : part ∈ t.parts) : '/' ∉ part.toList :=
  fun hc => ne_of_isPlain (t.isPlain_of_mem_parts h hc) (by decide) rfl

/-- A path falls apart into its parts. -/
theorem split_text : Text.split "/" t.text = t.parts :=
  Text.split_intercalate rfl t.parts_ne_nil fun _ => t.slash_not_mem

/-- A path from the root. -/
theorem intercalate_root : "/".intercalate ("" :: t.parts) = "/" ++ t.text := by
  obtain ⟨part, rest, hparts⟩ := List.exists_cons_of_ne_nil t.parts_ne_nil
  rw [text, hparts, String.intercalate_cons_cons, String.empty_append]

/-- A path from the root falls apart into its parts behind an empty one. -/
theorem split_root : Text.split "/" ("/" ++ t.text) = "" :: t.parts := by
  rw [← t.intercalate_root]
  exact Text.split_intercalate rfl (by simp) (List.forall_mem_cons.mpr ⟨by decide, fun _ => t.slash_not_mem⟩)

/-- A path begins with a plain character. -/
theorem exists_head : ∃ c s, t.text.toList = c :: s ∧ isPlain c = true := by
  obtain ⟨first, rest, hsegments⟩ := List.exists_cons_of_ne_nil t.nonempty
  have hfirst := t.plain first (by rw [hsegments]; exact List.mem_cons_self)
  cases hlist : first.toList with
  | nil => exact absurd (String.toList_eq_nil_iff.mp hlist) hfirst.nonempty
  | cons c s =>
      have hplain : isPlain c = true := hfirst.plain c (by rw [hlist]; exact List.mem_cons_self)
      rw [text, String.toList_intercalate, parts, hsegments, List.cons_append, List.map_cons, hlist]
      cases (rest ++ if t.slashed then [""] else []).map String.toList with
      | nil => exact ⟨c, s, List.intercalate_singleton, hplain⟩
      | cons next more => exact ⟨c, _, by rw [List.intercalate_cons_cons]; rfl, hplain⟩

theorem text_ne_empty : t.text ≠ "" := by
  obtain ⟨c, s, hlist, -⟩ := t.exists_head
  intro hempty
  rw [hempty] at hlist
  cases hlist

/-- Behind an empty part nothing is taken out of a path. -/
theorem withoutEmptyInner_parts : withoutEmptyInner ("" :: "" :: t.parts) = "" :: t.parts := by
  have hinner : ∀ part ∈ t.parts.dropLast, (!part.isEmpty) = true := by
    intro part hpart
    have hsegment : part ∈ t.segments := by
      rw [parts] at hpart
      split at hpart
      · rwa [List.dropLast_concat] at hpart
      · rw [List.append_nil] at hpart
        exact (List.dropLast_sublist _).subset hpart
    simpa using (t.plain part hsegment).nonempty
  have hne := t.parts_ne_nil
  rw [withoutEmptyInner, List.dropLast_cons_of_ne_nil hne, List.filter_cons_of_neg (by simp),
    List.filter_eq_self.mpr hinner]
  · rw [List.getLastD_cons, List.getLastD_eq_getLast?, List.getLast?_eq_getLast_of_ne_nil hne, Option.getD_some,
      List.cons_append, List.dropLast_append_getLast]
  · simp

/-- Parts that are no dots are all kept. -/
theorem removeDots_eq {kept parts : List String} (h : ∀ part ∈ parts, part ≠ "." ∧ part ≠ "..") :
    removeDots kept parts = kept.reverse ++ parts := by
  induction parts generalizing kept with
  | nil => simp [removeDots]
  | cons part rest ih =>
      obtain ⟨hpart, hrest⟩ := List.forall_mem_cons.mp h
      rw [removeDots, ih hrest]
      · simp
      · exact hpart.2
      · exact hpart.1

theorem not_dots_of_mem_parts {part : String} (h : part ∈ t.parts) : part ≠ "." ∧ part ≠ ".." := by
  rcases t.mem_parts h with hsegment | rfl
  · exact ⟨(t.plain part hsegment).notDot, (t.plain part hsegment).notDots⟩
  · exact ⟨by decide, by decide⟩

/-- A path does not begin with a slash. -/
theorem startsWith_slash : Text.startsWith t.text "/" = false := by
  obtain ⟨c, s, hlist, hplain⟩ := t.exists_head
  have hne : '/' ≠ c := (ne_of_isPlain hplain (by decide)).symm
  have hslash : "/".toList = ['/'] := rfl
  simp [Text.startsWith, Text.begins, hlist, hslash, Text.after?, hne]

/-- **From the root a path leads to itself.** -/
theorem resolvePath_root : resolvePath "/" t.text = "/" ++ t.text := by
  have hroot : Text.split "/" "/" = ["", ""] := by decide
  have hlast : ∀ part, ("" :: t.parts).getLastD "" = part → part ≠ "." ∧ part ≠ ".." := by
    rintro part rfl
    rcases List.mem_cons.mp (List.getLastD_mem_cons (l := t.parts) (a := "")) with hempty | hpart
    · rw [List.getLastD_cons, hempty]
      exact ⟨by decide, by decide⟩
    · rw [List.getLastD_cons]
      exact t.not_dots_of_mem_parts hpart
  have hkept : removeDots [] ("" :: t.parts) = "" :: t.parts := by
    rw [removeDots_eq (List.forall_mem_cons.mpr ⟨⟨by decide, by decide⟩, fun _ => t.not_dots_of_mem_parts⟩)]
    rfl
  have hne : ("/" ++ t.text).isEmpty = false := by simp
  obtain ⟨hdot, hdots⟩ := hlast _ rfl
  have hbase : (["", ""].getLastD "").isEmpty = true := rfl
  simp only [resolvePath, hroot, hbase, startsWith_slash, split_text, if_true, Bool.false_eq_true, if_false,
    List.cons_append, List.nil_append, withoutEmptyInner_parts, hkept, beq_eq_false_iff_ne.mpr hdot,
    beq_eq_false_iff_ne.mpr hdots, Bool.or_self, List.append_nil, intercalate_root, hne]

end Trail

/-! ## Origins -/

/-- Where a site is: its scheme and its host. -/
structure Origin where
  scheme : String
  host : String
  isWeb : scheme = "http" ∨ scheme = "https"
  nonempty : host ≠ ""
  isHost : isAuthority host = true
  plain : ∀ c ∈ host.toList, c ∉ ['/', '?', '#', '\t', '\n', '\r']

namespace Origin

/-- The link of a site. -/
def link (o : Origin) : String :=
  o.scheme ++ "://" ++ o.host ++ "/"

variable (o : Origin)

/-- The characters of a text behind the link of a site. -/
theorem toList_link_append (path : String) :
    (o.link ++ path).toList = o.scheme.toList ++ ':' :: '/' :: '/' :: (o.host.toList ++ '/' :: path.toList) := by
  have hmark : "://".toList = [':', '/', '/'] := rfl
  have hslash : "/".toList = ['/'] := rfl
  simp [link, hmark, hslash]

/-- The scheme of a site is read off its link. -/
theorem schemeOf?_link (s : List Char) : schemeOf? (o.scheme.toList ++ ':' :: s) = some (o.scheme, s) := by
  rcases o.isWeb with hscheme | hscheme
  · rw [hscheme]
    have hlist : "http".toList = ['h', 't', 't', 'p'] := rfl
    simp [schemeOf?, hlist]
  · rw [hscheme]
    have hlist : "https".toList = ['h', 't', 't', 'p', 's'] := rfl
    simp [schemeOf?, hlist]

/-- The scheme of a site is made of letters. -/
theorem ne_of_mem_scheme {c other : Char} (h : c ∈ o.scheme.toList) (hother : other.isAlpha = false) : c ≠ other := by
  have hletters : o.scheme.toList.all Char.isAlpha = true := by
    rcases o.isWeb with hscheme | hscheme <;> rw [hscheme] <;> decide
  rintro rfl
  have hletter := List.all_eq_true.mp hletters c h
  rw [hother] at hletter
  cases hletter

/-- The host of a site is read off its link. -/
theorem authorityFront_link (s : List Char) :
    authorityFront ('/' :: '/' :: (o.host.toList ++ '/' :: s)) = (o.host, '/' :: s) := by
  have hhost : (o.host.toList ++ '/' :: s).takeWhile (fun c => c != '/' && c != '?' && c != '#') = o.host.toList := by
    rw [List.takeWhile_append_of_pos, List.takeWhile_cons_of_neg (by decide), List.append_nil]
    intro c hc
    have hplain := o.plain c hc
    simp only [List.mem_cons, not_or] at hplain
    simp [hplain.1, hplain.2.1, hplain.2.2.1]
  rw [authorityFront, hhost, String.ofList_toList, List.drop_left]

end Origin

/-- The link of a site and a path behind it are free of the marks of queries and fragments and of what is passed over. -/
theorem Origin.ne_of_mem_link (o : Origin) {path : String} (hpath : IsPathText path) {c other : Char}
    (h : c ∈ (o.link ++ path).toList) (hother : other ∈ ['?', '#', '\t', '\n', '\r']) : c ≠ other := by
  have hall : (['?', '#', '\t', '\n', '\r'].all fun d =>
      d.isAlpha == false && d != ':' && d != '/' && isPlain d == false) = true := by decide
  have hmark := List.all_eq_true.mp hall other hother
  simp only [Bool.and_eq_true, beq_iff_eq, bne_iff_ne] at hmark
  obtain ⟨⟨⟨hletter, hcolon⟩, hslash⟩, hplain⟩ := hmark
  rw [o.toList_link_append] at h
  simp only [List.mem_append, List.mem_cons] at h
  rcases h with hscheme | rfl | rfl | rfl | hhost | rfl | hpathed
  · exact o.ne_of_mem_scheme hscheme hletter
  · exact hcolon.symm
  · exact hslash.symm
  · exact hslash.symm
  · rintro rfl
    exact o.plain c hhost (List.mem_cons_of_mem _ hother)
  · exact hslash.symm
  · rcases hpath c hpathed with rfl | hc
    · exact hslash.symm
    · exact ne_of_isPlain hc hplain

/-- Nothing is passed over in a path behind the link of a site. -/
theorem cleaned_link (o : Origin) {path : String} (hpath : IsPathText path) :
    cleaned (o.link ++ path) = (o.link ++ path).toList := by
  have hfront : (o.link ++ path).toList.dropWhile (·.toNat ≤ 32) = (o.link ++ path).toList := by
    rw [o.toList_link_append]
    rcases o.isWeb with hscheme | hscheme <;> rw [hscheme] <;> rfl
  rw [cleaned, hfront, List.filter_eq_self]
  intro c hc
  have htab : c ≠ '\t' := o.ne_of_mem_link hpath hc (by decide)
  have hline : c ≠ '\n' := o.ne_of_mem_link hpath hc (by decide)
  have hreturn : c ≠ '\r' := o.ne_of_mem_link hpath hc (by decide)
  simp [htab, hline, hreturn]

/-- **A path behind the link of a site is read as its path.** -/
theorem parse?_link (o : Origin) {path : String} (hpath : IsPathText path) :
    parse? (o.link ++ path) = some { scheme := o.scheme, authority := o.host, path := "/" ++ path } := by
  have hhash : '#' ∉ '/' :: path.toList := by
    simpa using hpath.not_mem (by decide) (by decide)
  have hmark : '?' ∉ '/' :: path.toList := by
    simpa using hpath.not_mem (by decide) (by decide)
  have hwritten : String.ofList ('/' :: path.toList) = "/" ++ path := by
    rw [← String.toList_inj]
    simp
  simp only [parse?]
  rw [← cleaned, cleaned_link o hpath, o.toList_link_append]
  simp only [o.schemeOf?_link, Option.getD_some, o.authorityFront_link, Text.cut?_of_not_mem hhash,
    Text.cut?_of_not_mem hmark, Option.getD_none, o.isHost, if_true, hwritten]

/-- A path behind the link of a site begins neither a query nor a fragment. -/
theorem unmarked_link (o : Origin) (t : Trail) : Unmarked (o.link ++ t.text) := fun _ hc =>
  ⟨o.ne_of_mem_link t.isPathText hc (by decide), o.ne_of_mem_link t.isPathText hc (by decide)⟩

/-- Nothing is passed over in a path. -/
theorem cleaned_trail (t : Trail) : cleaned t.text = t.text.toList := by
  have hfront : t.text.toList.dropWhile (·.toNat ≤ 32) = t.text.toList := by
    obtain ⟨c, s, hlist, hplain⟩ := t.exists_head
    have hvisible : 32 < c.toNat := by
      rcases toNat_of_isPlain hplain with h | h <;> omega
    rw [hlist, List.dropWhile_cons_of_neg (by simpa using hvisible)]
  rw [cleaned, hfront, List.filter_eq_self]
  intro c hc
  have hother : ∀ other, other ≠ '/' → isPlain other = false → c ≠ other := by
    rintro other hslash hother rfl
    exact t.isPathText.not_mem hslash hother hc
  simp [hother '\t' (by decide) (by decide), hother '\n' (by decide) (by decide), hother '\r' (by decide) (by decide)]

/-- A path has no colon, and so no scheme. -/
theorem schemeOf?_trail (t : Trail) : schemeOf? t.text.toList = none := by
  have hcolon : t.text.toList.takeWhile (· != ':') = t.text.toList := by
    rw [List.takeWhile_eq_self_iff]
    intro c hc
    have hne : c ≠ ':' := by
      rintro rfl
      exact t.isPathText.not_mem (by decide) (by decide) hc
    simpa using hne
  simp [schemeOf?, hcolon]

/-- A path does not begin with slashes, and so has no host. -/
theorem authorityFront_trail (t : Trail) : authorityFront t.text.toList = ("", t.text.toList) := by
  obtain ⟨c, s, hlist, hplain⟩ := t.exists_head
  have hne : c ≠ '/' := ne_of_isPlain hplain (by decide)
  rw [hlist, authorityFront]
  intro r heq
  exact hne (List.cons.inj heq).1

/-- A path that is read by itself has no scheme and no host. -/
theorem parse?_trail (t : Trail) (scheme : String) : parse? t.text scheme = some { scheme, path := t.text } := by
  have hhash : '#' ∉ t.text.toList := t.isPathText.not_mem (by decide) (by decide)
  have hmark : '?' ∉ t.text.toList := t.isPathText.not_mem (by decide) (by decide)
  simp only [parse?]
  rw [← cleaned, cleaned_trail]
  simp only [schemeOf?_trail, Option.getD_none, authorityFront_trail, Text.cut?_of_not_mem hhash,
    Text.cut?_of_not_mem hmark, String.ofList_toList]
  rfl

/-- A path without a semicolon has no parameters. -/
theorem withoutParameters_of_not_mem {r : Reference} (h : ';' ∉ r.path.toList) : r.withoutParameters = (r.path, "") := by
  rcases r.withoutParameters_cases with hwhole | ⟨front, last, segment, parameters, hlast, hcut, -⟩
  · exact hwhole
  · have hmem : ';' ∈ last.toList := by
      obtain ⟨⟨a, b⟩, hpieces, -⟩ := Option.map_eq_some_iff.mp hcut
      have hmark : ";".toList = [';'] := rfl
      rw [Text.eq_append_of_cut? hpieces, hmark]
      simp
    refine absurd ?_ h
    rcases hlast with ⟨-, rfl⟩ | ⟨before, hbefore, -⟩
    · exact hmem
    · obtain ⟨⟨a, b⟩, hpieces, heq⟩ := Option.map_eq_some_iff.mp hbefore
      have hsame : a.reverse = last.toList := by rw [← (Prod.mk.inj heq).2, String.toList_ofList]
      rw [← hsame, List.mem_reverse] at hmem
      rw [← List.mem_reverse, Text.eq_append_of_cut? hpieces]
      simp [hmem]

/-- The text of a place of a site. -/
theorem text_link (o : Origin) (path : String) :
    text { scheme := o.scheme, authority := o.host, path := "/" ++ path } = o.link ++ path := by
  have hhost : o.host.isEmpty = false := by simpa using o.nonempty
  have hscheme : o.scheme.isEmpty = false := by
    rcases o.isWeb with hscheme | hscheme <;> rw [hscheme] <;> rfl
  have hslash : Text.startsWith ("/" ++ path) "/" = true := by
    simp [Text.startsWith, Text.begins, Text.after?]
  have hnone : "".isEmpty = true := rfl
  simp only [text, hhost, hscheme, hslash, hnone, Bool.not_false, Bool.true_or, if_true, Bool.not_true, Bool.and_false,
    Bool.false_eq_true, if_false, String.append_empty]
  rw [← String.toList_inj, o.toList_link_append]
  have hcolon : ":".toList = [':'] := rfl
  have hslashes : "//".toList = ['/', '/'] := rfl
  have hroot : "/".toList = ['/'] := rfl
  simp [hcolon, hslashes, hroot]

/-- **A path is resolved against the link of a site by being put behind it.** -/
theorem join?_link (o : Origin) (t : Trail) : join? o.link t.text = some (o.link ++ t.text) := by
  have hlink : o.link.isEmpty = false := by simp [Origin.link]
  have hpath : t.text.isEmpty = false := by simpa using t.text_ne_empty
  have hbase : parse? o.link = some { scheme := o.scheme, authority := o.host, path := "/" } := by
    have hnothing := @parse?_link o "" nofun
    rwa [String.append_empty] at hnothing
  have hrelative : relativeSchemes.contains o.scheme = true ∧ authoritySchemes.contains o.scheme = true := by
    rcases o.isWeb with hscheme | hscheme <;> rw [hscheme] <;> decide
  have hplace : withoutParameters { scheme := o.scheme, path := t.text } = (t.text, "") :=
    withoutParameters_of_not_mem (t.isPathText.not_mem (by decide) (by decide))
  have hroot : withoutParameters { scheme := o.scheme, authority := o.host, path := "/" } = ("/", "") :=
    withoutParameters_of_not_mem (by decide : ';' ∉ "/".toList)
  have hnone : "".isEmpty = true := rfl
  have hwhole : ∀ path, withParameters path "" = path := fun path => rfl
  simp only [join?, hlink, hpath, hbase, parse?_trail, Option.bind_some, bind, hplace, hroot, hrelative, hnone, hwhole,
    Bool.false_eq_true, if_false, if_true, bne_self_eq_false, Bool.not_true, Bool.or_self, Bool.false_and,
    Bool.and_false, t.resolvePath_root, text_link]

/-- A path has no blanks around it. -/
theorem strip_trail (t : Trail) : Text.strip t.text = t.text := by
  have hvisible : ∀ c ∈ t.text.toList, Text.isBlank c = false := by
    intro c hc
    rcases t.isPathText c hc with rfl | hplain
    · decide
    · exact isBlank_of_isPlain hplain
  rw [Text.strip, Text.trimWhile_of_edges, String.ofList_toList]
  · intro c hc
    exact hvisible c (List.mem_of_head? hc)
  · intro c hc
    exact hvisible c (List.mem_of_getLast? hc)

/-- A path does not begin as an address of its own. -/
theorem startsWith_lower_trail (t : Trail) {front : String} (h : ':' ∈ front.toList) :
    Text.startsWith (Text.lower t.text) front = false := by
  have hcolon : ':' ∉ (Text.lower t.text).toList := by
    rw [Text.lower, String.toList_ofList]
    exact Text.colon_not_mem_lowerFrom (t.isPathText.not_mem (by decide) (by decide))
  rw [Bool.eq_false_iff]
  intro hstarts
  exact hcolon (Text.mem_of_startsWith hstarts h)

/-- **A path under the link of a site is put behind it.** -/
theorem absolute_trail (o : Origin) (t : Trail) : absolute t.text o.link = .ok (o.link ++ t.text) := by
  have hknown : ["http://", "https://", "magnet:"].any (Text.startsWith (Text.lower t.text) ·) = false := by
    simp only [List.any_cons, List.any_nil, Bool.or_false]
    rw [startsWith_lower_trail t (by decide), startsWith_lower_trail t (by decide),
      startsWith_lower_trail t (by decide)]
    rfl
  have hslashes : Text.startsWith t.text "//" = false := by
    obtain ⟨c, s, hlist, hplain⟩ := t.exists_head
    have hne : '/' ≠ c := (ne_of_isPlain hplain (by decide)).symm
    have hmark : "//".toList = ['/', '/'] := rfl
    simp [Text.startsWith, Text.begins, hlist, hmark, Text.after?, hne]
  have hlink : o.link.isEmpty = false := by simp [Origin.link]
  have hend : Text.endsWith o.link "/" = true := by
    have hslash : "/".toList = ['/'] := rfl
    simp [Text.endsWith, Text.begins, Origin.link, hslash, Text.after?]
  simp only [absolute, strip_trail, hknown, hslashes, hlink, t.startsWith_slash, hend, join?_link, Bool.false_eq_true,
    if_false, if_true]

end Reference

/-! ## Quoted texts -/

namespace Percent

/-- A character is encoded as at least one. -/
theorem encodeChar_ne_nil (c : Char) : Utf8.encodeChar c ≠ [] := by
  simp only [Utf8.encodeChar]
  split
  · simp
  · split
    · simp
    · split <;> simp

/-- What is not encoded as bytes stays as it is. -/
theorem char_of_not_mem {safe : Char → Bool} {c : Char} (h : '%' ∉ char safe c) : char safe c = [c] := by
  rw [char] at h ⊢
  split
  · rfl
  · rename_i hsafe
    rw [if_neg hsafe] at h
    obtain ⟨b, bs, hbytes⟩ := List.exists_cons_of_ne_nil (encodeChar_ne_nil c)
    rw [hbytes] at h
    exact absurd (by simp [byte]) h

/-- A text that is quoted without a percent sign is quoted as itself. -/
theorem encode_of_not_mem {safe : Char → Bool} {s : List Char} (h : '%' ∉ encode safe s) : encode safe s = s := by
  induction s with
  | nil => rfl
  | cons c s ih =>
      rw [encode, List.flatMap_cons, ← encode, List.mem_append, not_or] at h
      rw [encode, List.flatMap_cons, ← encode, char_of_not_mem h.1, ih h.2]
      rfl

/-- Only a text without percent signs that is its own quotation is quoted as such a text. -/
theorem eq_of_quote {safe s t : String} (h : quote safe s = t) (ht : '%' ∉ t.toList) : s = t := by
  have hlist : encode (safe.toList.contains ·) s.toList = t.toList := by rw [← h, quote, String.toList_ofList]
  rw [← String.toList_inj, ← hlist, encode_of_not_mem (by rwa [hlist])]

/-- The characters of a quoted text are plain. -/
theorem isPlain_of_mem_quote {s : String} {c : Char} (h : c ∈ (quote "+" s).toList) : Reference.isPlain c = true := by
  have halphanum : ∀ d : Char, d.isAlphanum = true → Reference.isPlain d = true := by
    intro d hd
    simp [Reference.isPlain, Text.isWordChar, Text.isAlphanumeric_of_isAlphanum hd]
  rw [quote, String.toList_ofList] at h
  obtain ⟨d, -, hc⟩ := List.mem_flatMap.mp h
  rw [char] at hc
  split at hc
  · rename_i hsafe
    rw [List.mem_singleton.mp hc]
    have hplus : "+".toList = ['+'] := rfl
    simp only [isUnreserved, hplus, List.contains_cons, List.contains_nil, Bool.or_false, Bool.or_eq_true,
      beq_iff_eq] at hsafe
    rcases hsafe with ((((hd | rfl) | rfl) | rfl) | rfl) | rfl
    · exact halphanum d hd
    all_goals decide
  · obtain ⟨b, -, hd⟩ := List.mem_flatMap.mp hc
    rcases mem_byte hd with rfl | hd
    · decide
    · exact halphanum c hd

/-- **A quoted text is a segment of its own**, unless it is nothing, or the dots that stand for this place and the one
before. -/
theorem isSegment_quote {s : String} (hempty : s ≠ "") (hdot : s ≠ ".") (hdots : s ≠ "..") :
    Reference.IsSegment (quote "+" s) where
  plain _ := isPlain_of_mem_quote
  nonempty h := hempty (eq_of_quote h (by decide))
  notDot h := hdot (eq_of_quote h (by decide))
  notDots h := hdots (eq_of_quote h (by decide))

end Percent

end MetaSearch
