import MetaSearch.Proofs.Address.Segments
import MetaSearch.Proofs.Site.Carried
import MetaSearch.Proofs.Template.Meaning

/-!
# Searches by path

Many sites are searched by a path that has the keywords as one of its segments.  Whatever the keywords are, they stay in
that segment: they are quoted when the template of the path is filled in, and what is quoted has no slash, no question
mark and no number sign.

* `KeywordPath` is such a path, with its template and what comes of it.
* `KeywordPath.evaluate_template` goes through the template, `PreparedSearch.address_trail` through the resolution.
* `prepare_addressed` puts them together, and `reshaped` shows what is outside of it: what a definition adds to
  addresses as it is, and keywords that are nothing but dots.
-/

namespace MetaSearch

open Template

/-! ## Paths with keywords -/

/-- A part of a path template that is text: letters and digits of any script, hyphens and underscores. -/
def IsLiteral (s : String) : Prop :=
  s ≠ "" ∧ ∀ c ∈ s.toList, Text.isWordChar c = true ∨ c = '-'

/-- A path with the keywords as one segment of their own between literal ones. -/
structure KeywordPath where
  before : List String
  after : List String
  slashed : Bool
  literal : ∀ s ∈ before ++ after, IsLiteral s

/-- A literal segment is a segment. -/
theorem IsLiteral.isSegment {s : String} (h : IsLiteral s) : Reference.IsSegment s where
  plain c hc := by
    rcases h.2 c hc with hword | rfl
    · rw [Reference.isPlain, hword, Bool.true_or]
    · decide
  nonempty := h.1
  notDot := by
    rintro rfl
    exact absurd (h.2 '.' (by decide)) (by decide)
  notDots := by
    rintro rfl
    exact absurd (h.2 '.' (by decide)) (by decide)

namespace KeywordPath

variable (k : KeywordPath)

/-- The segments of the path with something in the place of the keywords. -/
def segments (middle : String) : List String :=
  k.before ++ middle :: k.after

/-- The parts of the path between its slashes. -/
def parts (middle : String) : List String :=
  k.segments middle ++ if k.slashed then [""] else []

/-- The template of the path. -/
def template : String :=
  "/".intercalate (k.parts "\x7b\x7b .Keywords \x7d\x7d")

/-- The path with keywords that are filled in. -/
def filled (keywords : String) : String :=
  "/".intercalate (k.parts (Percent.quote "+" keywords))

/-- The path that the keywords lead along. -/
def trail {keywords : String} (hempty : keywords ≠ "") (hdot : keywords ≠ ".") (hdots : keywords ≠ "..") :
    Reference.Trail where
  segments := k.segments (Percent.quote "+" keywords)
  slashed := k.slashed
  nonempty := by simp [segments]
  plain s hs := by
    rcases List.mem_append.mp hs with hbefore | hs
    · exact (k.literal s (List.mem_append_left _ hbefore)).isSegment
    · rcases List.mem_cons.mp hs with rfl | hafter
      · exact Percent.isSegment_quote hempty hdot hdots
      · exact (k.literal s (List.mem_append_right _ hafter)).isSegment

/-! ## The template filled in -/

/-- What stands before the keywords. -/
def front : List Char :=
  k.before.flatMap fun s => s.toList ++ ['/']

/-- What stands behind the keywords. -/
def back : List Char :=
  (k.after ++ if k.slashed then [""] else []).flatMap fun s => '/' :: s.toList

/-- Parts behind a first one. -/
theorem toList_intercalate_cons (first : String) (rest : List String) :
    ("/".intercalate (first :: rest)).toList = first.toList ++ rest.flatMap fun s => '/' :: s.toList := by
  induction rest generalizing first with
  | nil => simp
  | cons next rest ih =>
      have hslash : "/".toList = ['/'] := rfl
      rw [String.intercalate_cons_cons, String.toList_append, String.toList_append, ih, hslash, List.flatMap_cons]
      simp

/-- The path with something in the place of the keywords. -/
theorem toList_parts (middle : String) :
    ("/".intercalate (k.parts middle)).toList = k.front ++ (middle.toList ++ k.back) := by
  rw [parts, segments, front, back, List.append_assoc, List.cons_append]
  generalize k.after ++ (if k.slashed then [""] else []) = behind
  induction k.before with
  | nil =>
      rw [List.nil_append, toList_intercalate_cons]
      rfl
  | cons first rest ih =>
      have hslash : "/".toList = ['/'] := rfl
      have hne : rest ++ middle :: behind ≠ [] := by simp
      obtain ⟨next, more, hparts⟩ := List.exists_cons_of_ne_nil hne
      rw [hparts] at ih
      rw [List.cons_append, hparts, String.intercalate_cons_cons, String.toList_append, String.toList_append, ih, hslash,
        List.flatMap_cons, List.append_assoc, List.append_assoc, List.append_assoc]

/-- The text around the keywords is plain but for slashes. -/
theorem isPlain_around {c : Char} (h : c ∈ k.front ∨ c ∈ k.back) : c = '/' ∨ Reference.isPlain c = true := by
  have hliteral : ∀ s ∈ k.before ++ k.after, ∀ c ∈ s.toList, Reference.isPlain c = true :=
    fun s hs => (k.literal s hs).isSegment.plain
  rcases h with h | h
  · obtain ⟨s, hs, hc⟩ := List.mem_flatMap.mp h
    rcases List.mem_append.mp hc with hc | hc
    · exact .inr (hliteral s (List.mem_append_left _ hs) c hc)
    · exact .inl (List.mem_singleton.mp hc)
  · obtain ⟨s, hs, hc⟩ := List.mem_flatMap.mp h
    rcases List.mem_cons.mp hc with rfl | hc
    · exact .inl rfl
    · rcases List.mem_append.mp hs with hs | hs
      · exact .inr (hliteral s (List.mem_append_right _ hs) c hc)
      · split at hs
        · rw [List.mem_singleton.mp hs] at hc
          cases hc
        · cases hs

/-- The text around the keywords is free of other characters. -/
theorem ne_around {c other : Char} (h : c ∈ k.front ∨ c ∈ k.back) (hslash : other ≠ '/')
    (hother : Reference.isPlain other = false) : c ≠ other := by
  rcases k.isPlain_around h with rfl | hplain
  · exact hslash.symm
  · exact Reference.ne_of_isPlain hplain hother

/-- The template by its structure. -/
def form : Form :=
  .joined (.text k.front) (.joined (.action ".Keywords".toList) (.text k.back))

theorem source_form : k.form.source = k.template.toList := by
  have htag : Template.tag ".Keywords".toList = "\x7b\x7b .Keywords \x7d\x7d".toList := by decide
  rw [template, toList_parts, form, Form.source, Form.source, Form.source, Form.source, Form.source, htag]

/-- The characters that are kept for braces are not plain. -/
theorem isPlain_held : Reference.isPlain heldOpen = false ∧ Reference.isPlain heldClose = false := by
  have hheld : ∀ c, c.toNat ∈ [0xE000, 0xE001] → Reference.isPlain c = false := by
    intro c hc
    have hbeyond : ∀ n ∈ [0xE000, 0xE001], 127 ≤ n := by decide
    have hwide := hbeyond _ hc
    by_contra hplain
    rcases Reference.toNat_of_isPlain (by simpa using hplain) with hvisible | ⟨-, hranges⟩
    · omega
    · exact Text.not_mem_of_inRanges hranges (by decide +kernel) hc
  exact ⟨hheld heldOpen (by decide), hheld heldClose (by decide)⟩

theorem wellFormed_form : k.form.WellFormed := by
  have hbraces : ∀ c, c ∈ k.front ∨ c ∈ k.back → isBrace c = false := by
    intro c hc
    have hopen : c ≠ '\x7b' := k.ne_around hc (by decide) (by decide)
    have hclose : c ≠ '\x7d' := k.ne_around hc (by decide) (by decide)
    simp [isBrace, hopen, hclose]
  exact ⟨fun c hc => hbraces c (.inl hc), ⟨by decide, .named (by decide)⟩, fun c hc => hbraces c (.inr hc)⟩

theorem textUnheld_form : k.form.TextUnheld := by
  have hheld : ∀ c, c ∈ k.front ∨ c ∈ k.back → c ≠ heldOpen ∧ c ≠ heldClose := fun c hc =>
    ⟨k.ne_around hc (by decide) isPlain_held.1, k.ne_around hc (by decide) isPlain_held.2⟩
  exact ⟨fun c hc => hheld c (.inl hc), trivial, fun c hc => hheld c (.inr hc)⟩

/-- **The template is filled in with the keywords, quoted.** -/
theorem evaluate_template {env : Environment} {keywords : String}
    (henv : action? env ".Keywords".toList = some keywords) :
    evaluate env k.template (Percent.quote "+") = k.filled keywords := by
  have hvalues : k.form.EachAction fun body => ∀ text, action? env body = some text →
      Unheld (Percent.quote "+" text).toList := by
    refine .of_forall (fun _ text _ c hc => ?_) k.form
    have hplain := Percent.isPlain_of_mem_quote hc
    exact ⟨Reference.ne_of_isPlain hplain isPlain_held.1, Reference.ne_of_isPlain hplain isPlain_held.2⟩
  have hpasses : k.form.depth ≤ maxPasses := by
    have hflat : k.form.depth = 0 := rfl
    omega
  have hbraces : Text.contains k.template "\x7b\x7b" = true := by
    have hopening : "\x7b\x7b".toList <:+: k.template.toList := by
      rw [template, toList_parts]
      exact ⟨k.front, " .Keywords \x7d\x7d".toList ++ k.back, by simp⟩
    exact Text.holds_of_isInfix hopening
  have hsettled := k.form.settle_source env (Percent.quote "+") k.wellFormed_form (by decide) hpasses
  rw [source_form] at hsettled
  unfold evaluate
  rw [if_pos hbraces, hsettled, Form.map_release_meaning env _ k.textUnheld_form hvalues, filled, ← String.toList_inj,
    toList_parts, String.toList_ofList, form, Form.meaning, Form.meaning, Form.meaning, Form.meaning, Form.meaning, henv]
  rfl

end KeywordPath

/-! ## The keywords of a search -/

namespace Environment

/-- Settings leave the keywords as they are. -/
theorem get?_settings (env : Environment) (config : List (String × Datum)) :
    (config.foldl (fun env (name, value) => env.put ("Config." ++ name) value) env).get? "Keywords" =
      env.get? "Keywords" := by
  induction config generalizing env with
  | nil => rfl
  | cons setting rest ih =>
      have hne : "Keywords" ≠ "Config." ++ setting.1 := by
        intro heq
        have hlist := congrArg String.toList heq
        have hkeywords : "Keywords".toList = 'K' :: "eywords".toList := rfl
        have hconfig : "Config.".toList = 'C' :: "onfig.".toList := rfl
        rw [String.toList_append, hkeywords, hconfig, List.cons_append] at hlist
        exact absurd (List.cons.inj hlist).1 (by decide)
      rw [List.foldl_cons, ih, get?_put_of_ne _ hne]

/-- Whatever the settings are, the keywords of a search are found. -/
theorem get?_forSearch (year : Nat) (keywords : String) (config : List (String × Datum)) (categories : List String)
    (query : List (Datum × Datum)) :
    (forSearch year keywords config categories query).get? "Keywords" = some (.text keywords) := by
  have hfirst : ∀ {name : String}, "Keywords" ≠ name → ∀ (env : Environment) (value : Datum),
      (env.put name value).get? "Keywords" = env.get? "Keywords" := fun hne env value => get?_put_of_ne env hne value
  simp only [forSearch, ofValues, get?_settings, List.foldl_cons, List.foldl_nil]
  rw [hfirst (by decide), hfirst (by decide), hfirst (by decide), hfirst (by decide), get?_put_self]

/-- The keywords as templates put them out. -/
theorem action?_keywords {env : Environment} {keywords : String} (h : env.get? "Keywords" = some (.text keywords)) :
    action? env ".Keywords".toList = some keywords := by
  have htokens : tokens ".Keywords".toList = [.word ".Keywords"] := by decide
  have hpoint : Text.startsWith ".Keywords" "." = true := by decide
  have hbare : bare ".Keywords" = "Keywords" := by decide
  have hvalue : env.resolve ".Keywords" = .text keywords := by
    simp only [resolve, lookup?, hbare, h]
    rfl
  simp only [action?, htokens, hpoint, Token.value, hvalue, if_true, List.isEmpty_nil]
  rfl

end Environment

namespace PreparedSearch

/-- **The address of a search by path.**  What the search adds as it is comes behind a question mark. -/
theorem address_trail {p : PreparedSearch} (o : Reference.Origin) (t : Reference.Trail) (htarget : p.target = t.text) :
    p.address o.link = .ok (o.link ++ t.text ++ if p.rawQuery = "" then "" else "?" ++ p.rawQuery) := by
  have hfull : t.text.isEmpty = false := by simpa using t.text_ne_empty
  have hurl : (o.link ++ t.text).isEmpty = false := by simp [Reference.Origin.link]
  have hfound : Reference.absolute? (some p.target) o.link = .ok (some (o.link ++ t.text)) := by
    simp only [Reference.absolute?, htarget, hfull, Bool.false_eq_true, if_false, Reference.absolute_trail]
    rfl
  have hmark : Text.contains (o.link ++ t.text) "?" = false := by
    rw [Bool.eq_false_iff, ne_eq, Text.contains_iff rfl]
    exact fun hmem => (Reference.unmarked_link o t '?' hmem).1 rfl
  simp only [address, hfound, bind, Except.bind, Option.filter, hurl, Bool.not_false, if_true, Option.getD_some, hmark,
    Bool.false_eq_true, if_false, String.isEmpty_iff]
  split
  · rw [String.append_empty]
    rfl
  · rw [String.append_assoc]
    rfl

end PreparedSearch

/-- Where the request of a search by path goes: to the site's own host, along the segments of the path with the keywords
quoted in their place, and nowhere else. -/
structure KeywordPath.LeadsTo (k : KeywordPath) (o : Reference.Origin) (keywords url : String) : Prop where
  read : ∃ r, Reference.parse? url = some r ∧ r.scheme = o.scheme ∧ r.authority = o.host ∧
    Text.split "/" r.path = "" :: k.parts (Percent.quote "+" keywords) ∧ r.query = "" ∧ r.fragment = ""
  unmarked : '?' ∉ url.toList ∧ '#' ∉ url.toList

/-- **Keywords stay in their segment.**  A site without filters for keywords is searched by a path that has the keywords
as one of its segments.  Whatever keywords these are, but for dots that stand for places of their own, the request goes
to the site's host along the segments of the path with the keywords quoted in their place, so that their number is always
the same; behind it comes what the definition adds as it is, if there is anything. -/
theorem prepare_addressed {now : Moment} {d : Definition} {query : Query} {settings : List (String × Datum)}
    {categories : List String} (o : Reference.Origin) (k : KeywordPath) (timeout : Option Datum)
    (hfilters : d.search.keywordFilters = []) (hcategories : d.siteCategories query.categories = .ok categories)
    (hpath : (d.choosePath categories).path = k.template) (hempty : query.keywords ≠ "")
    (hdot : query.keywords ≠ ".") (hdots : query.keywords ≠ "..") :
    ∃ p request url, prepare now d query settings = .ok p ∧ p.request o.link timeout = .ok request ∧
      request.url = url ++ (if p.rawQuery = "" then "" else "?" ++ p.rawQuery) ∧
      k.LeadsTo o query.keywords url ∧
      (k.parts (Percent.quote "+" query.keywords)).length =
        k.before.length + 1 + k.after.length + (if k.slashed then 1 else 0) := by
  have hkeywords : (applyFilters now d.search.keywordFilters (.text query.keywords)).asText = query.keywords := by
    rw [hfilters]
    rfl
  obtain ⟨p, hprepared, htarget⟩ : ∃ p, prepare now d query settings = .ok p ∧ p.target = k.filled query.keywords := by
    simp only [prepare, hcategories, hkeywords, hpath, bind, Except.bind]
    exact ⟨_, rfl, k.evaluate_template (Environment.action?_keywords (Environment.get?_forSearch ..))⟩
  have htrail : k.filled query.keywords = (k.trail hempty hdot hdots).text := rfl
  rw [htrail] at htarget
  generalize hfollowed : k.trail hempty hdot hdots = t at htarget
  have hparts : t.parts = k.parts (Percent.quote "+" query.keywords) := by rw [← hfollowed]; rfl
  have haddress := p.address_trail o t htarget
  obtain ⟨request, hrequest, hurl⟩ : ∃ request, p.request o.link timeout = .ok request ∧
      request.url = o.link ++ t.text ++ (if p.rawQuery = "" then "" else "?" ++ p.rawQuery) := by
    simp only [PreparedSearch.request, haddress, bind, Except.bind]
    exact ⟨_, rfl, rfl⟩
  refine ⟨p, request, o.link ++ t.text, hprepared, hrequest, hurl, ⟨?_, ?_⟩, ?_⟩
  · exact ⟨_, Reference.parse?_link o t.isPathText, rfl, rfl, hparts ▸ t.split_root, rfl, rfl⟩
  · have hunmarked := Reference.unmarked_link o t
    exact ⟨fun hmem => (hunmarked _ hmem).1 rfl, fun hmem => (hunmarked _ hmem).2 rfl⟩
  · rw [KeywordPath.parts, KeywordPath.segments]
    split <;> simp <;> omega

/-! ## A site with shelves -/

namespace PreparedSearch

/-- A path with the keywords between two other segments. -/
def shelf : KeywordPath where
  before := ["search"]
  after := ["1"]
  slashed := false
  literal := by
    have hall : ∀ s ∈ ["search", "1"], s ≠ "" ∧ (s.toList.all fun c => Text.isWordChar c || c == '-') = true := by
      decide +kernel
    intro s hs
    obtain ⟨hne, hchars⟩ := hall s hs
    exact ⟨hne, by simpa only [List.all_eq_true, Bool.or_eq_true, beq_iff_eq] using hchars⟩

/-- Where the site is. -/
def shelfOrigin : Reference.Origin where
  scheme := "https"
  host := "site.example"
  isWeb := .inr rfl
  nonempty := by decide
  isHost := by decide +kernel
  plain := by decide +kernel

/-- A site that is searched along that path, with some inputs. -/
def shelfSite (inputs : List (String × Datum)) : Definition where
  id := "site"
  name := "Site"
  links := ["https://site.example/"]
  search :=
    { paths := [{ path := shelf.template }], rows := { selector := "tr" }
      fields := [{ name := "title", selector := some "td" }], inputs }

/-- Keywords with all the marks of addresses stay in their segment. -/
theorem prepare_addressed_marks : ∃ p request url,
    prepare dawn (shelfSite []) { keywords := "../a?b#c;d:e" } [] = .ok p ∧
    p.request "https://site.example/" none = .ok request ∧
    request.url = url ++ (if p.rawQuery = "" then "" else "?" ++ p.rawQuery) ∧
    shelf.LeadsTo shelfOrigin "../a?b#c;d:e" url := by
  obtain ⟨p, request, url, hprepared, hrequest, hurl, hleads, -⟩ :=
    @prepare_addressed dawn (shelfSite []) { keywords := "../a?b#c;d:e" } [] [] shelfOrigin shelf none rfl rfl rfl
      (by decide) (by decide) (by decide)
  exact ⟨p, request, url, hprepared, hrequest, hurl, hleads⟩

/-- The address of a search of the site. -/
def shelfUrl (inputs : List (String × Datum)) (keywords : String) : Option String :=
  match prepare dawn (shelfSite inputs) { keywords } [] with
  | .error _ => none
  | .ok p => (p.request "https://site.example/" none).toOption.map Request.url

/-- Two addresses of another shape: what the definition adds as it is stands behind a question mark, and dots take the
segment before them away. -/
theorem reshaped :
    shelfUrl [("$raw", .text "limit=50")] "dune" = some "https://site.example/search/dune/1?limit=50" ∧
      ¬ shelf.LeadsTo shelfOrigin "dune" "https://site.example/search/dune/1?limit=50" ∧
    shelfUrl [] ".." = some "https://site.example/1" ∧ ¬ shelf.LeadsTo shelfOrigin ".." "https://site.example/1" := by
  have hread : Reference.parse? "https://site.example/1" =
      some { scheme := "https", authority := "site.example", path := "/1" } := by decide +kernel
  have hparts : Text.split "/" "/1" ≠ "" :: shelf.parts (Percent.quote "+" "..") := by decide +kernel
  refine ⟨by decide +kernel, fun h => h.unmarked.1 (by decide +kernel), by decide +kernel, fun h => ?_⟩
  obtain ⟨r, hr, -, -, hpath, -⟩ := h.read
  obtain rfl := Option.some.inj (hread.symm.trans hr)
  exact hparts hpath

end PreparedSearch

end MetaSearch
