import MetaSearch.Proofs.Release.WellFormed
import MetaSearch.Proofs.Search.Rows
import MetaSearch.Proofs.Text.Folded

/-!
# Rows that match the query

Sites that list more than was asked for have their rows matched with the keywords, either all rows of an answer or those
that the filters of a definition go over.  `titleMatches_iff` says what a title has to hold, `Answer.rows_of_isMatched`
that both ways leave the rows whose titles hold it, and `title_of_release?` that a release has the title of its row.

The main result is `visit_matched`: what a search finds holds every word of the query as it was typed, and a row that
was dropped on the way lacks one.
-/

namespace MetaSearch

/-- A text contains every word of some keywords, without regard to case. -/
def HoldsWords (keywords text : String) : Prop :=
  ∀ word ∈ Text.words keywords, (Text.fold word).toList <:+: (Text.fold text).toList

theorem holdsWords_iff {keywords text : String} : HoldsWords keywords text ↔
    ((Text.words keywords).all fun word => Text.contains (Text.fold text) (Text.fold word)) = true := by
  rw [List.all_eq_true]
  exact forall₂_congr fun word _ => Text.holds_iff_isInfix.symm

instance (keywords text : String) : Decidable (HoldsWords keywords text) :=
  decidable_of_iff _ holdsWords_iff.symm

/-- A title that is a text, or none at all. -/
def Row.IsTitled (row : Row) : Prop :=
  row.value "title" = .null ∨ ∃ t, row.value "title" = .text t

namespace Extract

/-- **What a title has to hold**, to match the keywords. -/
theorem titleMatches_iff {row : Row} (h : row.IsTitled) (keywords : String) :
    titleMatches (row.value "title") keywords = true ↔ HoldsWords keywords (row.text "title") := by
  have hrender : Template.render (row.value "title") = (row.value "title").asText := by
    rcases h with h | ⟨t, h⟩ <;> rw [h] <;> rfl
  rw [titleMatches, Text.words_fold, List.all_map, List.all_eq_true, hrender]
  refine forall₂_congr fun word hword => ?_
  rw [Row.text, Text.fold_infix_strip_iff hword, ← Text.holds_iff_isInfix, Function.comp_apply, Text.contains]

/-- A filter on rows that matches their titles with the keywords. -/
def IsMatching (call : FilterCall) : Prop :=
  Text.lower (Text.strip call.name) = "andmatch"

instance (call : FilterCall) : Decidable (IsMatching call) :=
  inferInstanceAs (Decidable (_ = _))

/-- The filters of a definition leave the rows whose titles match, where one of them matches titles. -/
theorem foldl_filterRows (keywords : String) (filters : List FilterCall) (rows : List Row) :
    filters.foldl (filterRows keywords) rows =
      if ∃ call ∈ filters, IsMatching call then rows.filter fun row => titleMatches (row.value "title") keywords
      else rows := by
  induction filters generalizing rows with
  | nil => simp
  | cons call filters ih =>
      rw [List.foldl_cons, ih, filterRows]
      by_cases hcall : IsMatching call
      · have hname : (Text.lower (Text.strip call.name) == "andmatch") = true := beq_iff_eq.mpr hcall
        simp [hname, hcall, List.filter_filter]
      · have hname : (Text.lower (Text.strip call.name) == "andmatch") = false := beq_eq_false_iff_ne.mpr hcall
        simp [hname, hcall]

/-- Filters have no part in how a document is cut. -/
theorem documentRows_congr {rule rule' : RowRule} (h : rule.selector = rule'.selector) (d : Datum) (env : Environment) :
    documentRows d rule env = documentRows d rule' env := by
  unfold documentRows
  rw [h]

/-- Filters have no part in how a page is cut. -/
theorem pageRows_congr {rule rule' : RowRule} (hselector : rule.selector = rule'.selector)
    (hafter : rule.after = rule'.after) (page : Markup.Page) (env : Environment) :
    pageRows page rule env = pageRows page rule' env := by
  unfold pageRows
  simp only [hselector, hafter]

end Extract

/-- The definition without the filters that drop rows. -/
def Definition.unsifted (d : Definition) : Definition :=
  { d with search := { d.search with rows := { d.search.rows with filters := [] } } }

@[simp] theorem Definition.fields_unsifted (d : Definition) : d.unsifted.search.fields = d.search.fields := rfl

@[simp] theorem Definition.filters_unsifted (d : Definition) : d.unsifted.search.rows.filters = [] := rfl

namespace Answer

variable {now : Moment} {d : Definition} {search : PreparedSearch} {link body : String}

/-- The rows of an answer before any of them is dropped. -/
def listed (now : Moment) (d : Definition) (search : PreparedSearch) (link body : String) : Except Trouble (List Row) :=
  let body := filtered now d body
  rowsOf now d.unsifted search link body (shapeOf search.path.shape body)

/-- Rows are matched with the keywords: all rows in some shapes, and those that a definition's own filters go over where
one of the filters matches titles. -/
def IsMatched (now : Moment) (d : Definition) (shape : AnswerShape) (body : String) : Prop :=
  shape.needsMatching = true ∨
    (∃ call ∈ d.search.rows.filters, Extract.IsMatching call) ∧
      (shape = .json ∨ shape = .html ∧ Feed.isFeed (filtered now d body) = false)

/-- The rows in the shapes that definitions cut are what the filters of the definition leave. -/
theorem rowsOf_eq_map {shape : AnswerShape} (h : shape = .json ∨ shape = .html) :
    rowsOf now d search link body shape = (rowsOf now d.unsifted search link body shape).map fun rows =>
      d.search.rows.filters.foldl (Extract.filterRows search.queryKeywords) rows := by
  rcases h with rfl | rfl
  · have hcuts : ∀ document, Extract.documentRows document d.unsifted.search.rows search.env =
        Extract.documentRows document d.search.rows search.env :=
      fun document => Extract.documentRows_congr (by rfl) document search.env
    simp only [rowsOf, hcuts, Definition.fields_unsifted, Definition.filters_unsifted]
    cases Extract.document body with
    | error e => rfl
    | ok document =>
        simp only [bind, Except.bind]
        cases Extract.documentRows document d.search.rows search.env with
        | error e => rfl
        | ok cuts => rfl
  · have hcuts : Extract.pageRows (Markup.Page.ofHypertext body) d.unsifted.search.rows search.env =
        Extract.pageRows (Markup.Page.ofHypertext body) d.search.rows search.env :=
      Extract.pageRows_congr (by rfl) (by rfl) _ _
    simp only [rowsOf, hcuts, Definition.fields_unsifted, Definition.filters_unsifted]
    cases Extract.pageRows (Markup.Page.ofHypertext body) d.search.rows search.env with
    | error e => rfl
    | ok read =>
        obtain ⟨page, cuts⟩ := read
        rfl

/-- **Where rows are matched, those are left whose titles match the keywords.** -/
theorem rows_of_isMatched (h : IsMatched now d search.path.shape body) :
    rows now d search link body = (listed now d search link body).map fun all =>
      all.filter fun row => Extract.titleMatches (row.value "title") search.queryKeywords := by
  unfold rows listed
  dsimp only
  rcases h with hshape | ⟨hcall, hcut⟩
  · -- these shapes are not cut by the definition, so that only the last step drops rows
    have hsame : rowsOf now d.unsifted search link (filtered now d body)
        (shapeOf search.path.shape (filtered now d body)) =
          rowsOf now d search link (filtered now d body) (shapeOf search.path.shape (filtered now d body)) := by
      rw [shapeOf, if_neg (by cases hdeclared : search.path.shape <;> simp_all [AnswerShape.needsMatching])]
      cases hdeclared : search.path.shape <;> simp_all [AnswerShape.needsMatching, rowsOf]
    simp only [hsame, if_pos hshape]
    cases rowsOf now d search link (filtered now d body) (shapeOf search.path.shape (filtered now d body)) <;> rfl
  · have hread : shapeOf search.path.shape (filtered now d body) = search.path.shape := by
      rcases hcut with hjson | ⟨hhtml, hfeed⟩ <;> simp [shapeOf, *]
    have hplain : ¬ search.path.shape.needsMatching = true := by
      rcases hcut with hjson | ⟨hhtml, -⟩ <;> simp [*, AnswerShape.needsMatching]
    rw [hread, rowsOf_eq_map (hcut.imp_right And.left)]
    simp only [if_neg hplain]
    cases rowsOf now d.unsifted search link (filtered now d body) search.path.shape with
    | error e => rfl
    | ok all =>
        simp only [Except.map, bind, Except.bind, Extract.foldl_filterRows, if_pos hcall]
        rfl

/-- Where rows are matched and titles are texts, those are left that hold every word. -/
theorem exists_listed_of_isMatched (h : IsMatched now d search.path.shape body) {kept : List Row}
    (hrows : rows now d search link body = .ok kept) :
    ∃ all, listed now d search link body = .ok all ∧ ((∀ row ∈ all, row.IsTitled) →
      kept = all.filter fun row => HoldsWords search.queryKeywords (row.text "title")) := by
  rw [rows_of_isMatched h] at hrows
  cases hlisted : listed now d search link body with
  | error e =>
      rw [hlisted] at hrows
      cases hrows
  | ok all =>
      rw [hlisted] at hrows
      refine ⟨all, rfl, fun htitled => ?_⟩
      rw [← Except.ok.inj hrows]
      refine List.filter_congr fun row hrow => ?_
      rw [Bool.eq_iff_iff, decide_eq_true_iff]
      exact Extract.titleMatches_iff (htitled row hrow) search.queryKeywords

end Answer

/-! ## From rows to releases -/

variable {σ : Type} {profile : SiteProfile} {now : Moment}

/-- A release has the title of its row. -/
theorem Row.title_of_release? {row : Row} {r : Release} (h : row.release? profile now = .ok (some r)) :
    r.title = row.text "title" := by
  by_cases htitle : row.text "title" = ""
  · simp only [release?, htitle] at h
    cases h
  · cases hlink : row.link? profile (row.text "title") with
    | none =>
        have hne : (row.text "title").isEmpty = false := by simpa using htitle
        rw [link?] at hlink
        simp only [release?, hne, hlink] at h
        cases h
    | some link =>
        obtain ⟨r', hr', hwell⟩ := release?_of_link h htitle hlink
        rw [Option.some.inj hr']
        exact hwell.title.1

/-- Every release is made of a row. -/
theorem exists_row_of_mem_releasesOf {rows : List Row} {releases : List Release}
    (h : releasesOf rows profile now = .ok releases) {r : Release} (hr : r ∈ releases) :
    ∃ row ∈ rows, row.release? profile now = .ok (some r) := by
  induction rows generalizing releases with
  | nil =>
      obtain rfl := Except.ok.inj h
      cases hr
  | cons row rows ih =>
      rw [releasesOf_cons] at h
      obtain ⟨own, hown, h⟩ := exists_of_bind_eq_ok h
      obtain ⟨others, hothers, h⟩ := exists_of_bind_eq_ok h
      rw [← Except.ok.inj h, List.mem_append, Option.mem_toList] at hr
      rcases hr with hr | hr
      · exact ⟨row, List.mem_cons_self, hr ▸ hown⟩
      · obtain ⟨other, hmem, hother⟩ := ih hothers hr
        exact ⟨other, List.mem_cons_of_mem row hmem, hother⟩

/-- A walk that arrives does so in its last trial. -/
theorem Trail.exists_of_arrived {α : Type} {T : Trial α → Prop} {last : Option Setback} {links : List String}
    {trials : List (Trial α)} {a : α} (h : Trail T last links trials (.arrived a)) :
    ∃ before t, trials = before ++ [t] ∧ t.link ∈ links ∧ T t ∧ t.ended = .ok a := by
  generalize hwalked : Walked.arrived a = walked at h
  induction h with
  | exhausted last => cases hwalked
  | arrived last links t b htried hended =>
      cases hwalked
      exact ⟨[], t, rfl, List.mem_cons_self, htried, hended⟩
  | faulted last links t f htried hended => cases hwalked
  | further last links t b htried hended trials walked hrest ih =>
      obtain ⟨before, u, rfl, hlink, hu⟩ := ih hwalked
      exact ⟨t :: before, u, rfl, List.mem_cons_of_mem t.link hlink, hu⟩

/-- A visit found something when it arrived at rows that can all be read. -/
theorem Definition.outcome_of_failure_eq_none {d : Definition} {walked : Walked (List Row)}
    (h : (d.outcome profile now walked).failure = none) :
    ∃ rows, walked = .arrived rows ∧ releasesOf rows profile now = .ok (d.outcome profile now walked).releases := by
  cases walked with
  | arrived rows =>
      refine ⟨rows, rfl, ?_⟩
      rw [outcome] at h ⊢
      cases hreleases : releasesOf rows profile now with
      | error f => simp [hreleases] at h
      | ok releases => rfl
  | exhausted last => simp [outcome] at h
  | faulted f => simp [outcome] at h

/-- A failed search has found nothing. -/
theorem Definition.releases_outcome_eq_nil {d : Definition} {walked : Walked (List Row)}
    (h : (d.outcome profile now walked).failure ≠ none) : (d.outcome profile now walked).releases = [] := by
  cases walked with
  | arrived rows =>
      rw [outcome] at h ⊢
      cases hreleases : releasesOf rows profile now with
      | error f => rfl
      | ok releases => simp [hreleases] at h
  | exhausted last => rfl
  | faulted f => rfl

/-- A search is prepared with the query as it was typed. -/
theorem queryKeywords_of_prepare {d : Definition} {query : Query} {settings : List (String × Datum)}
    {search : PreparedSearch} (h : prepare now d query settings = .ok search) :
    search.queryKeywords = query.keywords := by
  obtain ⟨categories, -, h⟩ := exists_of_bind_eq_ok h
  rw [← Except.ok.inj h]

/-- **What a search finds matches the query.**  A failed search finds nothing.  Else some link's reply came to a body,
whose rows were read and made into the releases that were found; and where rows are matched with the keywords, and
titles are texts, those are left of all rows of the body whose titles hold every word of the query as it was typed, and
so do the titles of all releases. -/
theorem visit_matched (d : Definition) (net : Network σ) (now : Moment) (query : Query)
    (settings : List (String × Datum)) (timeout : Option Datum) (profile : SiteProfile) (s : σ) :
    ∃ outcome s' asked,
      (d.visit net now query settings timeout profile).run s = (outcome, s') ∧
      (d.visit net.recorded now query settings timeout profile).run (s, []) = (outcome, s', asked) ∧
      (outcome.failure ≠ none → outcome.releases = []) ∧
      (outcome.failure = none → ∃ search link request last body kept,
        prepare now d query settings = .ok search ∧ link ∈ d.allLinks ∧ search.request link timeout = .ok request ∧
        last <:+ asked ∧ Reached net request last (.ok body) ∧ Answer.rows now d search link body = .ok kept ∧
        releasesOf kept profile now = .ok outcome.releases ∧
        (Answer.IsMatched now d search.path.shape body → ∃ all, Answer.listed now d search link body = .ok all ∧
          ((∀ row ∈ all, row.IsTitled) →
            kept = all.filter (fun row => HoldsWords query.keywords (row.text "title")) ∧
            ∀ release ∈ outcome.releases, HoldsWords query.keywords release.title))) := by
  cases hprepare : prepare now d query settings with
  | error f =>
      simp only [Definition.visit, hprepare]
      exact ⟨_, s, [], rfl, rfl, fun _ => rfl, fun h => absurd h (Option.some_ne_none _)⟩
  | ok search =>
      obtain ⟨trials, hwalk, htrail⟩ := Notes.walk (Notes.attempt net now d search timeout) d.allLinks none s []
      rcases hwalked : Visit.walk (Visit.attempt net now d search timeout) none d.allLinks s with ⟨walked, s'⟩
      rw [hwalked] at hwalk htrail
      refine ⟨d.outcome profile now walked, s', trials.flatMap Trial.asked, ?_, ?_,
        Definition.releases_outcome_eq_nil, fun hfound => ?_⟩
      · simp only [Definition.visit, hprepare, bind, StateT.bind, StateT.run, hwalked]
        rfl
      · simp only [Definition.visit, hprepare, bind, StateT.bind, StateT.run, hwalk]
        rfl
      · obtain ⟨kept, rfl, hreleases⟩ := Definition.outcome_of_failure_eq_none hfound
        obtain ⟨before, t, rfl, hlink, htried, hended⟩ := htrail.exists_of_arrived
        cases htried with
        | unasked link f hrequest => cases hended
        | lost link request asked e hrequest hreached => cases hended
        | read link request asked body hrequest hreached =>
            refine ⟨search, link, request, asked, body, kept, rfl, hlink, hrequest, ?_, hreached, hended, hreleases,
              fun hmatched => ?_⟩
            · rw [List.flatMap_append, List.flatMap_singleton]
              exact List.suffix_append _ _
            · obtain ⟨all, hlisted, hkept⟩ := Answer.exists_listed_of_isMatched hmatched hended
              rw [queryKeywords_of_prepare hprepare] at hkept
              refine ⟨all, hlisted, fun htitled => ⟨hkept htitled, fun release hrelease => ?_⟩⟩
              obtain ⟨row, hrow, hmade⟩ := exists_row_of_mem_releasesOf hreleases hrelease
              rw [hkept htitled, List.mem_filter, decide_eq_true_iff] at hrow
              rw [Row.title_of_release? hmade]
              exact hrow.2

namespace Episodes

/-- A site that lists episodes, whatever it is asked for. -/
def site : Definition where
  id := "episodes"
  name := "Episodes"
  links := ["https://episodes.test/"]
  search := { paths := [{ path := "api", shape := .eztv }], rows := { selector := "$" }, fields := [] }

/-- Two episodes, of which one has all words of the query in its title. -/
def body : String :=
  "\x7b\"torrents\":[\x7b\"title\":\"Big BUCK Bunny\",\"magnet_url\":\"magnet:?xt=1\"\x7d," ++
    "\x7b\"title\":\"Buck Rogers\",\"magnet_url\":\"magnet:?xt=2\"\x7d]\x7d"

/-- The site answers everything with the same episodes. -/
def net : Network Unit where
  fetch _ := pure { status := 200, body }

/-- Two words, in another order and with other capitals than in the title. -/
def query : Query where
  keywords := "bunny buck"

/-- Whether a site was asked and replied with the episodes. -/
def isListing : Asked → Bool
  | .fetch _ (.ok response) => response.body == body
  | _ => false

/-- Of two episodes the one with both words is found. -/
theorem visit_matched_episodes :
    ∃ outcome s', (site.visit net Listing.origin query [] none (site.profile none)).run () = (outcome, s') ∧
      outcome.failure = none ∧
      (∃ all kept : List Row, all.map (fun row => row.text "title") = ["Big BUCK Bunny", "Buck Rogers"] ∧
        kept = all.filter (fun row => HoldsWords query.keywords (row.text "title")) ∧
        releasesOf kept (site.profile none) Listing.origin = .ok outcome.releases) ∧
      ∀ release ∈ outcome.releases, HoldsWords query.keywords release.title := by
  obtain ⟨outcome, s', asked, hrun, hrecorded, -, hfound⟩ :=
    visit_matched site net Listing.origin query [] none (site.profile none) ()
  have hended : ∀ run, (site.visit net.recorded Listing.origin query [] none (site.profile none)).run ((), []) = run →
      run.1.failure = none ∧ run.2.2.all isListing = true := by
    rintro _ rfl
    decide +kernel
  obtain ⟨hnone, hlisting⟩ := hended _ hrecorded
  obtain ⟨search, link, request, last, body', kept, hprepare, -, -, hlast, hreached, -, hreleases, hmatched⟩ :=
    hfound hnone
  have hshape : search.path.shape = .eztv := by
    have hshapes : (prepare Listing.origin site query []).toOption.map (fun search => search.path.shape) =
        some .eztv := by
      decide +kernel
    rw [hprepare] at hshapes
    exact Option.some.inj hshapes
  have hbody : body' = body := by
    have hall := List.all_eq_true.mp hlisting
    cases hreached with
    | read r hplain hstatus => simpa [isListing] using hall _ (hlast.subset List.mem_cons_self)
    | passed r r' hpuzzle hsolve hplain hstatus => cases hsolve
  subst hbody
  obtain ⟨all, hlisted, hleft⟩ := hmatched (.inl (by rw [hshape]; rfl))
  have hall : ∀ text, Answer.listed Listing.origin site search link text =
      (Extract.document text).map Api.episodeRows := by
    intro text
    rw [Answer.listed, hshape]
    rfl
  have htitles : ((Extract.document body).map Api.episodeRows).toOption.map
      (fun rows => rows.map fun row => row.value "title") =
        some [.text "Big BUCK Bunny", .text "Buck Rogers"] := by
    decide +kernel
  rw [← hall, hlisted] at htitles
  have hvalues : all.map (fun row => row.value "title") = [.text "Big BUCK Bunny", .text "Buck Rogers"] :=
    Option.some.inj htitles
  have htitled : ∀ row ∈ all, row.IsTitled := by
    intro row hrow
    have hvalue : row.value "title" ∈ all.map fun row => row.value "title" := List.mem_map_of_mem hrow
    rw [hvalues] at hvalue
    rcases List.mem_pair.mp hvalue with h | h <;> exact .inr ⟨_, h⟩
  obtain ⟨hkept, hreleased⟩ := hleft htitled
  refine ⟨outcome, s', hrun, hnone, ⟨all, kept, ?_, hkept, hreleases⟩, hreleased⟩
  have htexts : all.map (fun row => row.text "title") =
      (all.map fun row => row.value "title").map fun title => Text.strip title.asText := by
    rw [List.map_map]
    rfl
  rw [htexts, hvalues]
  decide +kernel

end Episodes

end MetaSearch
