import Mathlib.Data.List.TakeWhile
import MetaSearch.Proofs.Address.Parsed

/-!
# Links made absolute keep their query

A link is resolved against the address of a site.  `Reference.absolute_query` says that its query comes through
unchanged, whichever rule applies, when the link has neither a fragment nor blanks that are passed over, and the site's
address has neither a query nor a fragment.

All of it is about marks: a question mark or a number sign can only come from the query or the fragment, because the
scheme, the authority and the path have none, and resolving a path only rearranges segments.
-/

namespace MetaSearch

/-- A text that neither begins a query nor a fragment. -/
def Unmarked (s : String) : Prop := ∀ c ∈ s.toList, Target.IsUnmarked c

instance (s : String) : Decidable (Unmarked s) := List.decidableBAll Target.IsUnmarked s.toList

/-- A text without a fragment. -/
def Unhashed (s : String) : Prop := '#' ∉ s.toList

instance (s : String) : Decidable (Unhashed s) := inferInstanceAs (Decidable ('#' ∉ s.toList))

/-- The written query of a text, empty where there is none. -/
def queryText (s : List Char) : List Char := (Target.writtenQuery? s).getD []

theorem queryText_append {front : List Char} (h : ∀ c ∈ front, Target.IsUnmarked c) (s : List Char) :
    queryText (front ++ s) = queryText s := by
  rw [queryText, Target.writtenQuery?_append h, queryText]

/-- A text without marks has no query. -/
theorem queryText_of_unmarked {s : List Char} (h : ∀ c ∈ s, Target.IsUnmarked c) : queryText s = [] := by
  have hnothing := queryText_append h []
  rw [List.append_nil] at hnothing
  rw [hnothing]
  rfl

/-- Behind a question mark everything is the query, where there is no fragment. -/
theorem queryText_mark {q : List Char} (h : '#' ∉ q) : queryText ('?' :: q) = q := by
  have hall : q.takeWhile (· != '#') = q := by
    rw [List.takeWhile_eq_self_iff]
    intro c hc
    simpa using fun heq : c = '#' => h (heq ▸ hc)
  exact hall

/-- A text without a question mark and a fragment has no marks. -/
theorem unmarked_of_cut? {s : List Char} (hcut : Text.cut? ['?'] s = none) (hhash : '#' ∉ s) :
    ∀ c ∈ s, Target.IsUnmarked c :=
  fun _ hc => ⟨fun heq => Text.not_mem_of_cut? hcut (heq ▸ hc), fun heq => hhash (heq ▸ hc)⟩

/-- A text without a fragment falls apart at its question mark into a text without marks and its query. -/
theorem queryText_of_cut? {s front query : List Char} (hcut : Text.cut? ['?'] s = some (front, query))
    (hhash : '#' ∉ s) :
    s = front ++ '?' :: query ∧ (∀ c ∈ front, Target.IsUnmarked c) ∧ '#' ∉ query ∧ queryText s = query := by
  have hwhole : s = front ++ '?' :: query := by simpa using Text.eq_append_of_cut? hcut
  have hfront : ∀ c ∈ front, Target.IsUnmarked c := fun c hc =>
    ⟨fun heq => Text.not_mem_front_of_cut? hcut (heq ▸ hc), fun heq => hhash (by rw [hwhole]; simp [heq ▸ hc])⟩
  have hquery : '#' ∉ query := fun h => hhash (by rw [hwhole]; simp [h])
  exact ⟨hwhole, hfront, hquery, by rw [hwhole, queryText_append hfront, queryText_mark hquery]⟩

namespace Unmarked

theorem append {a b : String} (ha : Unmarked a) (hb : Unmarked b) : Unmarked (a ++ b) := by
  intro c hc
  rw [String.toList_append] at hc
  exact (List.mem_append.mp hc).elim (ha c) (hb c)

/-- The parts of a text without marks have none. -/
theorem of_mem_split {sep s part : String} (h : Unmarked s) (hpart : part ∈ Text.split sep s) : Unmarked part :=
  fun c hc => h c (Text.mem_of_mem_split hpart hc)

/-- Texts without marks that are joined by one have none. -/
theorem intercalate {sep : String} {parts : List String} (hsep : Unmarked sep) (h : ∀ part ∈ parts, Unmarked part) :
    Unmarked (sep.intercalate parts) := by
  intro c hc
  rw [String.toList_intercalate] at hc
  rcases Text.mem_intercalate hc with hc | ⟨piece, hpiece, hc⟩
  · exact hsep c hc
  · obtain ⟨part, hpart, rfl⟩ := List.mem_map.mp hpiece
    exact h part hpart c hc

/-- What is cut off a text without marks has none. -/
theorem of_cutAt? {sep s front rest : String} (h : Unmarked s) (hcut : Text.cutAt? sep s = some (front, rest)) :
    Unmarked front ∧ Unmarked rest := by
  obtain ⟨⟨a, b⟩, hpieces, heq⟩ := Option.map_eq_some_iff.mp hcut
  obtain ⟨rfl, rfl⟩ := Prod.mk.inj heq
  have hwhole := Text.eq_append_of_cut? hpieces
  constructor
  · intro c hc
    exact h c (by rw [hwhole]; simp_all)
  · intro c hc
    exact h c (by rw [hwhole]; simp_all)

/-- What is cut off the end of a text without marks has none. -/
theorem of_cutAtLast? {sep s front rest : String} (h : Unmarked s)
    (hcut : Text.cutAtLast? sep s = some (front, rest)) : Unmarked front ∧ Unmarked rest := by
  obtain ⟨⟨a, b⟩, hpieces, heq⟩ := Option.map_eq_some_iff.mp hcut
  obtain ⟨rfl, rfl⟩ := Prod.mk.inj heq
  have hwhole := Text.eq_append_of_cut? hpieces
  have hmem : ∀ c, c ∈ a ++ sep.toList.reverse ++ b → Target.IsUnmarked c := by
    intro c hc
    rw [← hwhole] at hc
    exact h c (List.mem_reverse.mp hc)
  constructor
  · intro c hc
    exact hmem c (by simp_all)
  · intro c hc
    exact hmem c (by simp_all)

end Unmarked

namespace Reference

/-! ## Paths -/

/-- Parameters put back make no marks. -/
theorem unmarked_withParameters {path parameters : String} (hpath : Unmarked path) (hparameters : Unmarked parameters) :
    Unmarked (withParameters path parameters) := by
  rw [withParameters]
  split
  · exact hpath
  · exact (hpath.append (by decide)).append hparameters

/-- What parameters are cut off from: the last segment of the path, behind what stands before it. -/
theorem withoutParameters_cases (r : Reference) :
    r.withoutParameters = (r.path, "") ∨
    ∃ front last segment parameters,
      (front = "" ∧ last = r.path ∨ ∃ before, Text.cutAtLast? "/" r.path = some (before, last) ∧ front = before ++ "/") ∧
      Text.cutAt? ";" last = some (segment, parameters) ∧ r.withoutParameters = (front ++ segment, parameters) := by
  by_cases hscheme : parameterSchemes.contains r.scheme = true
  · cases hlast : Text.cutAtLast? "/" r.path with
    | none =>
        cases hcut : Text.cutAt? ";" r.path with
        | none => exact .inl (by simp only [withoutParameters, hscheme, hlast, hcut, if_true])
        | some pieces =>
            exact .inr ⟨"", r.path, pieces.1, pieces.2, .inl ⟨rfl, rfl⟩, hcut,
              by simp only [withoutParameters, hscheme, hlast, hcut, if_true]⟩
    | some pieces =>
        cases hcut : Text.cutAt? ";" pieces.2 with
        | none => exact .inl (by simp only [withoutParameters, hscheme, hlast, hcut, if_true])
        | some parts =>
            exact .inr ⟨pieces.1 ++ "/", pieces.2, parts.1, parts.2, .inr ⟨pieces.1, rfl, rfl⟩, hcut,
              by simp only [withoutParameters, hscheme, hlast, hcut, if_true]⟩
  · exact .inl (by simp only [withoutParameters, hscheme, Bool.false_eq_true, if_false])

/-- A path without marks has none in its parameters. -/
theorem unmarked_withoutParameters {r : Reference} (h : Unmarked r.path) :
    Unmarked r.withoutParameters.1 ∧ Unmarked r.withoutParameters.2 := by
  have hempty : Unmarked "" := by decide
  rcases r.withoutParameters_cases with hwhole | ⟨front, last, segment, parameters, hlast, hcut, hparts⟩
  · rw [hwhole]
    exact ⟨h, hempty⟩
  · have hboth : Unmarked front ∧ Unmarked last := by
      rcases hlast with ⟨rfl, rfl⟩ | ⟨before, hbefore, rfl⟩
      · exact ⟨hempty, h⟩
      · obtain ⟨hfront, hlast⟩ := h.of_cutAtLast? hbefore
        exact ⟨hfront.append (by decide), hlast⟩
    obtain ⟨hsegment, hparameters⟩ := hboth.2.of_cutAt? hcut
    rw [hparts]
    exact ⟨hboth.1.append hsegment, hparameters⟩

/-- The segments that are kept are some of the segments. -/
theorem mem_of_mem_removeDots {kept segments : List String} {part : String} (h : part ∈ removeDots kept segments) :
    part ∈ kept ∨ part ∈ segments := by
  fun_induction removeDots kept segments with
  | case1 kept => exact .inl (List.mem_reverse.mp h)
  | case2 kept rest ih => exact (ih h).imp List.mem_of_mem_drop (List.mem_cons_of_mem _)
  | case3 kept rest ih => exact (ih h).imp_right (List.mem_cons_of_mem _)
  | case4 kept segment rest _ _ ih =>
      rcases ih h with h | h
      · rcases List.mem_cons.mp h with rfl | h
        · exact .inr List.mem_cons_self
        · exact .inl h
      · exact .inr (List.mem_cons_of_mem _ h)

/-- Leaving out empty texts adds none. -/
theorem mem_of_mem_withoutEmptyInner {parts : List String} {part : String} (h : part ∈ withoutEmptyInner parts) :
    part ∈ parts := by
  match parts with
  | [] => exact h
  | [a] => exact h
  | a :: b :: rest =>
      rw [withoutEmptyInner] at h
      · rcases List.mem_append.mp h with h | h
        · rcases List.mem_cons.mp h with rfl | h
          · exact List.mem_cons_self
          · exact List.mem_cons_of_mem a ((List.dropLast_sublist _).subset (List.mem_filter.mp h).1)
        · rw [List.mem_singleton.mp h, List.getLastD_cons]
          exact List.mem_cons_of_mem a List.getLastD_mem_cons
      · simp

/-- Resolving a path makes no marks. -/
theorem unmarked_resolvePath {base path : String} (hbase : Unmarked base) (hpath : Unmarked path) :
    Unmarked (resolvePath base path) := by
  have hbaseParts : ∀ part ∈ (if ((Text.split "/" base).getLastD "").isEmpty then Text.split "/" base
      else (Text.split "/" base).dropLast), Unmarked part := by
    intro part hpart
    split at hpart
    · exact hbase.of_mem_split hpart
    · exact hbase.of_mem_split ((List.dropLast_sublist _).subset hpart)
  simp only [resolvePath]
  generalize (if ((Text.split "/" base).getLastD "").isEmpty then Text.split "/" base
      else (Text.split "/" base).dropLast) = baseParts at hbaseParts ⊢
  have hsegments : ∀ part ∈ (if Text.startsWith path "/" then Text.split "/" path
      else withoutEmptyInner (baseParts ++ Text.split "/" path)), Unmarked part := by
    intro part hpart
    split at hpart
    · exact hpath.of_mem_split hpart
    · rcases List.mem_append.mp (mem_of_mem_withoutEmptyInner hpart) with hpart | hpart
      · exact hbaseParts part hpart
      · exact hpath.of_mem_split hpart
  generalize (if Text.startsWith path "/" then Text.split "/" path
      else withoutEmptyInner (baseParts ++ Text.split "/" path)) = segments at hsegments ⊢
  have hresolved : ∀ part ∈ removeDots [] segments ++
      (if segments.getLastD "" == "." || segments.getLastD "" == ".." then [""] else []), Unmarked part := by
    intro part hpart
    rcases List.mem_append.mp hpart with hpart | hpart
    · rcases mem_of_mem_removeDots hpart with h | h
      · cases h
      · exact hsegments part h
    · split at hpart
      · rw [List.mem_singleton.mp hpart]
        decide
      · cases hpart
  generalize removeDots [] segments ++
      (if segments.getLastD "" == "." || segments.getLastD "" == ".." then [""] else []) = resolved at hresolved ⊢
  have hslash : Unmarked "/" := by decide
  split
  · exact hslash
  · exact Unmarked.intercalate hslash hresolved

/-! ## References -/

/-- A scheme is a text without marks at the front of another. -/
theorem schemeOf?_front {s rest : List Char} {scheme : String} (h : schemeOf? s = some (scheme, rest)) :
    Unmarked scheme ∧ ∃ front, s = front ++ rest ∧ ∀ c ∈ front, Target.IsUnmarked c := by
  simp only [schemeOf?] at h
  split at h
  · rename_i colon after c front hrest hfront
    split at h
    · rename_i hscheme
      obtain ⟨rfl, rfl⟩ := Prod.mk.inj (Option.some.inj h)
      have hwhole := Target.colon_of_drop hrest
      rw [Bool.and_eq_true, List.all_eq_true] at hscheme
      have hfree : ∀ d ∈ s.takeWhile (· != ':'), Target.IsUnmarked d := by
        intro d hd
        refine Target.isUnmarked_of_scheme ?_
        have := hscheme.2 d hd
        simp only [Bool.or_eq_true] at this ⊢
        tauto
      refine ⟨?_, s.takeWhile (· != ':') ++ [':'], by simpa using hwhole, ?_⟩
      · intro d hd
        rw [String.toList_ofList, List.mem_map] at hd
        obtain ⟨e, he, rfl⟩ := hd
        exact ⟨Target.toLower_ne (by decide) (hfree e he).1, Target.toLower_ne (by decide) (hfree e he).2⟩
      · intro d hd
        rcases List.mem_append.mp hd with hd | hd
        · exact hfree d hd
        · rw [List.mem_singleton.mp hd]
          decide
    · cases h
  · cases h

/-- A text without what is passed over in references. -/
def cleaned (text : String) : List Char :=
  (text.toList.dropWhile (·.toNat ≤ 32)).filter fun c => c != '\t' && c != '\n' && c != '\r'

/-- **What is read of a reference without a fragment.** -/
theorem parse?_parts {text scheme : String} {r : Reference} (h : parse? text scheme = some r) (hscheme : Unmarked scheme)
    (hhash : '#' ∉ cleaned text) :
    Unmarked r.scheme ∧ Unmarked r.authority ∧ Unmarked r.path ∧ r.fragment = "" ∧
      r.query.toList = queryText (cleaned text) ∧ Unhashed r.query := by
  have hschemed : Unmarked ((schemeOf? (cleaned text)).getD (scheme, cleaned text)).1 ∧
      ∃ front, cleaned text = front ++ ((schemeOf? (cleaned text)).getD (scheme, cleaned text)).2 ∧
        ∀ c ∈ front, Target.IsUnmarked c := by
    cases hfound : schemeOf? (cleaned text) with
    | none => exact ⟨hscheme, [], rfl, by simp⟩
    | some pieces => exact schemeOf?_front hfound
  simp only [parse?] at h
  rw [← cleaned] at h
  generalize (schemeOf? (cleaned text)).getD (scheme, cleaned text) = schemed at h hschemed
  obtain ⟨hscheme', front, hfront, hfree⟩ := hschemed
  obtain ⟨⟨front', hfront', hfree'⟩, hauthority⟩ := Target.authorityFront_front schemed.2
  generalize Reference.authorityFront schemed.2 = authorized at h hfront' hauthority
  -- what is left of the text is the path and the query
  have hquery : queryText (cleaned text) = queryText authorized.2 := by
    rw [hfront, queryText_append hfree, hfront', queryText_append hfree']
  have hhash' : '#' ∉ authorized.2 := by
    intro hmem
    rw [hfront, hfront'] at hhash
    exact hhash (by simp [hmem])
  rw [Text.cut?_of_not_mem hhash'] at h
  split at h
  · rw [← Option.some.inj h, hquery]
    cases hcut : Text.cut? ['?'] authorized.2 with
    | none =>
        have hplain := unmarked_of_cut? hcut hhash'
        refine ⟨hscheme', hauthority, ?_, rfl, ?_, ?_⟩
        · simpa [hcut, Unmarked] using hplain
        · simp [hcut, queryText_of_unmarked hplain]
        · simp [hcut, Unhashed]
    | some pieces =>
        obtain ⟨path, query⟩ := pieces
        obtain ⟨-, hpath, hrest, htext⟩ := queryText_of_cut? hcut hhash'
        refine ⟨hscheme', hauthority, ?_, rfl, ?_, ?_⟩
        · simpa [hcut, Unmarked] using hpath
        · simp [hcut, htext]
        · simpa [hcut, Unhashed] using hrest
  · cases h

/-- A query behind a text without marks. -/
theorem queryText_behind {front query : String} (hfront : Unmarked front) (hquery : Unhashed query) :
    queryText (front ++ if query.isEmpty then "" else "?" ++ query).toList = query.toList ∧
      Unhashed (front ++ if query.isEmpty then "" else "?" ++ query) := by
  have hfree : '#' ∉ front.toList := fun h => (hfront '#' h).2 rfl
  by_cases hempty : query = ""
  · subst hempty
    simpa [Unhashed, hfree] using queryText_of_unmarked hfront
  · have hne : query.isEmpty = false := by simpa using hempty
    have hmark : ("?" ++ query).toList = '?' :: query.toList := by simp
    have hlist : (front ++ ("?" ++ query)).toList = front.toList ++ '?' :: query.toList := by
      rw [String.toList_append, hmark]
    simp only [hne, Bool.false_eq_true, if_false, Unhashed, hlist]
    refine ⟨by rw [queryText_append hfront, queryText_mark hquery], ?_⟩
    intro h
    rcases List.mem_append.mp h with h | h
    · exact hfree h
    · rcases List.mem_cons.mp h with h | h
      · exact absurd h (by decide)
      · exact hquery h

/-- **The query of a reference stands in its text.** -/
theorem queryText_text {r : Reference} (hscheme : Unmarked r.scheme) (hauthority : Unmarked r.authority)
    (hpath : Unmarked r.path) (hfragment : r.fragment = "") (hquery : Unhashed r.query) :
    queryText r.text.toList = r.query.toList ∧ Unhashed r.text := by
  have hslash : Unmarked "/" := by decide
  have hslashes : Unmarked "//" := by decide
  have hcolon : Unmarked ":" := by decide
  have hnothing : Unmarked "" := by decide
  have hfront : Unmarked ((if r.scheme.isEmpty then "" else r.scheme ++ ":") ++
      if !r.authority.isEmpty ||
          (!r.scheme.isEmpty && authoritySchemes.contains r.scheme && !Text.startsWith r.path "//") then
        "//" ++ r.authority ++ (if !r.path.isEmpty && !Text.startsWith r.path "/" then "/" ++ r.path else r.path)
      else r.path) := by
    refine Unmarked.append ?_ ?_
    · split
      · exact hnothing
      · exact hscheme.append hcolon
    · split
      · refine (hslashes.append hauthority).append ?_
        split
        · exact hslash.append hpath
        · exact hpath
      · exact hpath
  have htext : r.text = ((if r.scheme.isEmpty then "" else r.scheme ++ ":") ++
      if !r.authority.isEmpty ||
          (!r.scheme.isEmpty && authoritySchemes.contains r.scheme && !Text.startsWith r.path "//") then
        "//" ++ r.authority ++ (if !r.path.isEmpty && !Text.startsWith r.path "/" then "/" ++ r.path else r.path)
      else r.path) ++ if r.query.isEmpty then "" else "?" ++ r.query := by
    have hnone : "".isEmpty = true := rfl
    simp only [text, hfragment, hnone, if_true, String.append_empty]
  rw [htext]
  exact queryText_behind hfront hquery

/-- Nothing in front of a text makes a difference to its query where it is passed over. -/
theorem queryText_cleaned {text : String} (h : ∀ c ∈ text.toList, c ≠ '\t' ∧ c ≠ '\n' ∧ c ≠ '\r') :
    queryText (cleaned text) = queryText text.toList := by
  have hall : cleaned text = text.toList.dropWhile (·.toNat ≤ 32) := by
    rw [cleaned, List.filter_eq_self]
    intro c hc
    simpa [and_assoc] using h c ((List.dropWhile_sublist _).subset hc)
  have hfront : ∀ c ∈ text.toList.takeWhile (·.toNat ≤ 32), Target.IsUnmarked c := by
    intro c hc
    have hc := Text.of_mem_takeWhile hc
    constructor <;> rintro rfl <;> revert hc <;> decide
  conv => rhs; rw [← List.takeWhile_append_dropWhile (p := (·.toNat ≤ 32)) (l := text.toList)]
  rw [queryText_append hfront, hall]

/-- A cleaned text has nothing that was not in the text. -/
theorem mem_of_mem_cleaned {text : String} {c : Char} (h : c ∈ cleaned text) : c ∈ text.toList :=
  (List.dropWhile_sublist _).subset (List.mem_filter.mp h).1

/-- A reference that is put together with another path keeps its query. -/
theorem queryText_withPath {r : Reference} {authority path : String} (hscheme : Unmarked r.scheme)
    (hauthority : Unmarked authority) (hpath : Unmarked path) (hfragment : r.fragment = "")
    (hquery : Unhashed r.query) :
    queryText ({ r with authority, path } : Reference).text.toList = r.query.toList ∧
      Unhashed ({ r with authority, path } : Reference).text :=
  queryText_text (r := { r with authority, path }) hscheme hauthority hpath hfragment hquery

/-- A text whose spaces, tabs and line ends all stand inside, and which has no fragment. -/
structure IsTidy (url : String) : Prop where
  stripped : Text.strip url = url
  lines : ∀ c ∈ url.toList, c ≠ '\t' ∧ c ≠ '\n' ∧ c ≠ '\r'
  fragment : Unhashed url

instance (url : String) : Decidable (IsTidy url) :=
  decidable_of_iff
    (Text.strip url = url ∧ (url.toList.all fun c => c != '\t' && c != '\n' && c != '\r') = true ∧ Unhashed url)
    ⟨fun ⟨hstripped, hlines, hfragment⟩ => ⟨hstripped, by simpa [and_assoc] using hlines, hfragment⟩,
      fun ⟨hstripped, hlines, hfragment⟩ => ⟨hstripped, by simpa [and_assoc] using hlines, hfragment⟩⟩

/-- **Joining a link to an address keeps the query of the link.** -/
theorem join?_query {base url s : String} (h : join? base url = some s) (hbase : Unmarked base) (hurl : IsTidy url) :
    queryText s.toList = queryText url.toList ∧ Unhashed s := by
  have hself : queryText url.toList = queryText url.toList ∧ Unhashed url := ⟨rfl, hurl.fragment⟩
  simp only [join?] at h
  split at h
  · rw [← Option.some.inj h]
    exact hself
  · split at h
    · rename_i hempty
      rw [← Option.some.inj h, String.isEmpty_iff.mp hempty]
      exact ⟨queryText_of_unmarked hbase, fun hc => (hbase '#' hc).2 rfl⟩
    obtain ⟨b, hb, h⟩ := Option.bind_eq_some_iff.mp h
    obtain ⟨r, hr, h⟩ := Option.bind_eq_some_iff.mp h
    have hcleanBase : '#' ∉ cleaned base := fun hc => (hbase '#' (mem_of_mem_cleaned hc)).2 rfl
    obtain ⟨hbScheme, hbAuthority, hbPath, -, hbQuery, -⟩ := parse?_parts hb (by decide) hcleanBase
    have hbNone : b.query = "" := by
      apply String.ext
      rw [hbQuery, queryText_of_unmarked fun c hc => hbase c (mem_of_mem_cleaned hc)]
      rfl
    have hcleanUrl : '#' ∉ cleaned url := fun hc => hurl.fragment (mem_of_mem_cleaned hc)
    obtain ⟨hScheme, hAuthority, hPath, hFragment, hQuery, hHash⟩ := parse?_parts hr hbScheme hcleanUrl
    obtain ⟨hpath, hparameters⟩ := unmarked_withoutParameters hPath
    obtain ⟨hbpath, hbparameters⟩ := unmarked_withoutParameters hbPath
    rw [queryText_cleaned hurl.lines] at hQuery
    rw [← hQuery]
    have hauthority : Unmarked (if authoritySchemes.contains r.scheme then b.authority else r.authority) := by
      split
      · exact hbAuthority
      · exact hAuthority
    split at h
    · rw [← Option.some.inj h, hQuery]
      exact hself
    · split at h
      · rw [← Option.some.inj h]
        exact queryText_withPath hScheme hAuthority (unmarked_withParameters hpath hparameters) hFragment hHash
      · split at h
        · -- the base has no query that could stand in for a missing one
          have hsame : (if r.query.isEmpty then b.query else r.query) = r.query := by
            split
            · rename_i hempty
              rw [hbNone]
              exact (String.isEmpty_iff.mp hempty).symm
            · rfl
          rw [← Option.some.inj h, hsame]
          exact queryText_withPath hScheme hauthority (unmarked_withParameters hbpath hbparameters) hFragment hHash
        · rw [← Option.some.inj h]
          exact queryText_withPath hScheme hauthority
            (unmarked_withParameters (unmarked_resolvePath hbpath hpath) hparameters) hFragment hHash

/-- A text without marks in front of a tidy one leaves its query as it is. -/
theorem queryText_front {front url : String} (hfront : Unmarked front) (hurl : Unhashed url) :
    queryText (front ++ url).toList = queryText url.toList ∧ Unhashed (front ++ url) := by
  rw [Unhashed, String.toList_append, queryText_append hfront]
  refine ⟨rfl, fun h => ?_⟩
  rcases List.mem_append.mp h with h | h
  · exact (hfront '#' h).2 rfl
  · exact hurl h

/-- **A tidy link keeps its query when it is made absolute.** -/
theorem absolute_query {base url s : String} (h : absolute url base = .ok s) (hbase : Unmarked base)
    (hurl : IsTidy url) : queryText s.toList = queryText url.toList ∧ Unhashed s := by
  have hself : queryText url.toList = queryText url.toList ∧ Unhashed url := ⟨rfl, hurl.fragment⟩
  have hslashed : ∀ t : String, Unmarked t → Unmarked (t ++ "/") := fun t ht => ht.append (by decide)
  simp only [absolute, hurl.stripped] at h
  split at h
  · rw [← Except.ok.inj h]
    exact hself
  · split at h
    · rw [← Except.ok.inj h]
      exact queryText_front (by decide) hurl.fragment
    · split at h
      · rw [← Except.ok.inj h]
        exact hself
      · split at h
        · -- a path from the root, behind the origin of the address or behind the address as it is written
          cases hb : parse? base with
          | none => simp [hb] at h
          | some b =>
              obtain ⟨hscheme, hauthority, -⟩ :=
                parse?_parts hb (by decide) fun hc => (hbase '#' (mem_of_mem_cleaned hc)).2 rfl
              simp only [hb] at h
              split at h
              · rw [← Except.ok.inj h]
                refine queryText_front (fun c hc => hbase c ?_) hurl.fragment
                rw [String.toList_ofList, Text.dropEndWhile, List.mem_reverse] at hc
                exact List.mem_reverse.mp ((List.dropWhile_sublist _).subset hc)
              · rw [← Except.ok.inj h]
                exact queryText_front ((hscheme.append (by decide)).append hauthority) hurl.fragment
        · have hbase' : Unmarked (if Text.endsWith base "/" then base else base ++ "/") := by
            split
            · exact hbase
            · exact hslashed base hbase
          cases hjoined : join? (if Text.endsWith base "/" then base else base ++ "/") url with
          | none => simp [hjoined] at h
          | some joined =>
              simp only [hjoined] at h
              rw [← Except.ok.inj h]
              exact join?_query hjoined hbase' hurl

end Reference

end MetaSearch
