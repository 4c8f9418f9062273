import MetaSearch.Proofs.Address.Absolute
import MetaSearch.Proofs.Address.Percent
import MetaSearch.Proofs.Datum.Equality
import MetaSearch.Proofs.Web.Logged
import MetaSearch.Site.Reader

/-!
# What a search carries to its site

The pairs that a search is about are written in three places: in the path of the site, in the input `$raw`, which is
added to the address as it is, and in the other inputs, which are sent as parameters.  Parameters take the place of the
query of an address.  So the pairs of an address that is sent are the inputs, or, where there are none, those of the
query that was put together (`PreparedSearch.sent_pairs`).

`PreparedSearch.carried_iff` says from this when a search carries all its pairs: with inputs exactly when each pair of
the path and of `$raw` is among the inputs, and without them exactly when each is in the query put together, which is so
when neither the link nor what is added to it has marks that cut it short.
-/

namespace MetaSearch

/-- The pairs in the query of an address as it is written. -/
def writtenPairs (text : String) : List (String × String) :=
  Percent.fields (String.ofList (queryText text.toList))

/-- The pairs in the query of an address in regular form. -/
def Target.pairs (t : Target) : List (String × String) :=
  Percent.fields (t.query.getD "")

/-- An address is made regular with its pairs. -/
theorem Target.pairs_of_parse {text : String} {t : Target} (h : parse text = .ok t) : t.pairs = writtenPairs text := by
  rw [pairs, (parse_eq h).2, writtenPairs, queryText]
  cases writtenQuery? text.toList with
  | none => rfl
  | some q => exact Percent.fields_encodeRest q

/-- **The pairs of an address that is sent.**  They are the parameters, and without any those of the written address. -/
theorem Request.pairs_of_target {r : Request} {t : Target} (h : r.target = .ok t) :
    t.pairs = if r.params = [] then writtenPairs r.url else parameterFields r.params := by
  cases hparsed : Target.parse r.url with
  | error reason => simp [target, hparsed, bind, Except.bind] at h
  | ok written =>
      have hrooted : written.rooted.pairs = written.pairs := by
        rw [Target.pairs, Target.rooted]
        split <;> rfl
      simp only [target, hparsed, bind, Except.bind, List.isEmpty_iff, pure, Except.pure] at h
      split at h
      · rename_i hnone
        rw [if_pos hnone, ← Except.ok.inj h, hrooted, Target.pairs_of_parse hparsed]
      · rename_i hsome
        rw [if_neg hsome]
        simp only [Target.withForm] at h
        split at h
        · cases h
        · rw [← Except.ok.inj h]
          exact Percent.fields_form _

/-! ## Queries put together -/

/-- What is added behind a query is part of it. -/
theorem queryText_added {s : List Char} (hmark : '?' ∈ s) (hhash : '#' ∉ s) {rest : List Char} (hrest : '#' ∉ rest) :
    queryText (s ++ rest) = queryText s ++ rest := by
  cases hcut : Text.cut? ['?'] s with
  | none => exact absurd hmark (Text.not_mem_of_cut? hcut)
  | some pieces =>
      obtain ⟨front, query⟩ := pieces
      obtain ⟨hwhole, hfront, hquery, -⟩ := queryText_of_cut? hcut hhash
      have hboth : '#' ∉ query ++ rest := fun h => (List.mem_append.mp h).elim hquery hrest
      rw [hwhole, List.append_assoc, queryText_append hfront, queryText_append hfront, List.cons_append,
        queryText_mark hboth, queryText_mark hquery]

/-- **Pairs that are added to an address come behind its own.** -/
theorem writtenPairs_added {url added : String} (hurl : Unhashed url) (hadded : Unhashed added) :
    writtenPairs (url ++ (if Text.contains url "?" then "&" else "?") ++ added) =
      writtenPairs url ++ Percent.fields added := by
  have hcontains : Text.contains url "?" = true ↔ '?' ∈ url.toList := Text.contains_iff rfl url
  by_cases hmark : '?' ∈ url.toList
  · have htext : (url ++ "&" ++ added).toList = url.toList ++ '&' :: added.toList := by simp
    have hrest : '#' ∉ '&' :: added.toList := by
      rw [List.mem_cons, not_or]
      exact ⟨by decide, hadded⟩
    rw [if_pos (hcontains.mpr hmark), writtenPairs, htext, queryText_added hmark hurl hrest, Percent.fields_append, writtenPairs,
      String.ofList_toList]
  · have hplain : ∀ c ∈ url.toList, Target.IsUnmarked c := fun c hc =>
      ⟨fun heq => hmark (heq ▸ hc), fun heq => hurl (heq ▸ hc)⟩
    have htext : (url ++ "?" ++ added).toList = url.toList ++ '?' :: added.toList := by simp
    rw [if_neg (mt hcontains.mp hmark), writtenPairs, htext, queryText_append hplain, queryText_mark hadded, writtenPairs,
      queryText_of_unmarked hplain, String.ofList_toList]
    rfl

namespace PreparedSearch

/-- The inputs of a search, filled in. -/
def rendered (d : Definition) (p : PreparedSearch) : List (String × String) :=
  (Fields.merge d.search.inputs p.path.inputs).map fun (name, value) =>
    (name, Template.evaluate p.env value.asText id)

/-- What is added to the address of a search as it is. -/
def raw (d : Definition) (p : PreparedSearch) : String :=
  (List.lookup rawInput (p.rendered d)).getD ""

/-- The inputs of a search that are not added to its address as they are. -/
def fields (d : Definition) (p : PreparedSearch) : List (String × String) :=
  (p.rendered d).filter (·.1 != rawInput)

/-- The pairs that are written in the address of a search. -/
def written (d : Definition) (p : PreparedSearch) : List (String × String) :=
  writtenPairs p.target ++ Percent.fields (p.raw d)

/-- An address carries a search: each of its pairs is among those of the address. -/
def CarriedBy (d : Definition) (p : PreparedSearch) (t : Target) : Prop :=
  (∀ pair ∈ p.written d, pair ∈ t.pairs) ∧ ∀ pair ∈ p.fields d, pair ∈ t.pairs

instance (d : Definition) (p : PreparedSearch) (t : Target) : Decidable (p.CarriedBy d t) :=
  inferInstanceAs (Decidable ((∀ pair ∈ p.written d, pair ∈ t.pairs) ∧ ∀ pair ∈ p.fields d, pair ∈ t.pairs))

/-- What a search is made ready with. -/
theorem inputs_of_prepare {now : Moment} {d : Definition} {query : Query} {settings : List (String × Datum)}
    {p : PreparedSearch} (h : prepare now d query settings = .ok p) :
    p.inputs = p.fields d ∧ p.rawQuery = p.raw d := by
  simp only [prepare, bind, Except.bind] at h
  split at h
  · cases h
  · rw [← Except.ok.inj h]
    exact ⟨rfl, rfl⟩

/-- A search that is made with parameters sends its inputs. -/
theorem request_eq {p : PreparedSearch} {link : String} {timeout : Option Datum} {request : Request}
    (hmethod : p.path.method = .get) (h : p.request link timeout = .ok request) :
    p.address link = .ok request.url ∧ request.method = "GET" ∧ parameterFields request.params = p.inputs ∧
      (request.params = [] ↔ p.inputs = []) := by
  cases haddress : p.address link with
  | error f => simp [PreparedSearch.request, haddress, bind, Except.bind] at h
  | ok url =>
      simp only [PreparedSearch.request, haddress, hmethod, bind, Except.bind, pure, Except.pure, if_true] at h
      rw [← Except.ok.inj h]
      have hname : Text.upper Method.get.name = "GET" := by decide +kernel
      refine ⟨rfl, hname, ?_, by simp⟩
      simp only [parameterFields, List.flatMap_map]
      induction p.inputs with
      | nil => rfl
      | cons input rest ih =>
          rw [List.flatMap_cons, ih]
          rfl

/-- **The pairs that a search sends.** -/
theorem sent_pairs {p : PreparedSearch} {link : String} {timeout : Option Datum} {request : Request} {t : Target}
    (hmethod : p.path.method = .get) (h : p.request link timeout = .ok request) (htarget : request.target = .ok t) :
    t.pairs = if p.inputs = [] then writtenPairs request.url else p.inputs := by
  obtain ⟨-, -, hparams, hnone⟩ := request_eq hmethod h
  rw [Request.pairs_of_target htarget, hparams]
  exact if_congr hnone rfl rfl

/-- The address of a search before anything is added to it as it is. -/
theorem front_of_address {p : PreparedSearch} {link url : String} (h : p.address link = .ok url) :
    ∃ front,
      url = (if p.rawQuery = "" then front
        else front ++ (if Text.contains front "?" then "&" else "?") ++ p.rawQuery) ∧
      (p.target = "" ∧ front = link ∨
        ∃ found, Reference.absolute p.target link = .ok found ∧ front = if found = "" then link else found) := by
  have hadded : ∀ found, Reference.absolute? (some p.target) link = .ok (some found) →
      url = (if p.rawQuery = "" then (if found = "" then link else found)
        else (if found = "" then link else found) ++
          (if Text.contains (if found = "" then link else found) "?" then "&" else "?") ++ p.rawQuery) := by
    intro found hfound
    have hfront : (Option.filter (fun u => !u.isEmpty) (some found)).getD link = if found = "" then link else found := by
      by_cases hnone : found = "" <;> simp [Option.filter, hnone]
    simp only [address, hfound, bind, Except.bind, pure, Except.pure, hfront, String.isEmpty_iff] at h
    split at h
    · rename_i hraw
      rw [if_pos hraw, ← Except.ok.inj h]
    · rename_i hraw
      rw [if_neg hraw, ← Except.ok.inj h]
  by_cases hempty : p.target = ""
  · have hfound : Reference.absolute? (some p.target) link = .ok (some "") := by
      rw [hempty]
      rfl
    exact ⟨link, hadded "" hfound, .inl ⟨hempty, rfl⟩⟩
  · have hfull : p.target.isEmpty = false := by simpa using hempty
    have habsolute : Reference.absolute? (some p.target) link = some <$> Reference.absolute p.target link := by
      simp only [Reference.absolute?, hfull, Bool.false_eq_true, if_false]
    cases hfound : Reference.absolute p.target link with
    | error f => simp [address, habsolute, hfound, bind, Except.bind, Functor.map, Except.map] at h
    | ok found =>
        rw [hfound] at habsolute
        exact ⟨_, hadded found habsolute, .inr ⟨found, rfl, rfl⟩⟩

/-- **The pairs of the address of a search.**  They are those of the path and those that are added as they are, where
nothing cuts them short. -/
theorem writtenPairs_address {p : PreparedSearch} {link url : String} (h : p.address link = .ok url)
    (hlink : Unmarked link) (htarget : Reference.IsTidy p.target) (hraw : Unhashed p.rawQuery) :
    writtenPairs url = writtenPairs p.target ++ Percent.fields p.rawQuery := by
  have hlinkQuery : queryText link.toList = queryText "".toList ∧ Unhashed link :=
    ⟨queryText_of_unmarked hlink, fun hc => (hlink '#' hc).2 rfl⟩
  obtain ⟨front, hurl, hfront⟩ := front_of_address h
  have hquery : queryText front.toList = queryText p.target.toList ∧ Unhashed front := by
    rcases hfront with ⟨hempty, rfl⟩ | ⟨found, hfound, rfl⟩
    · rw [hempty]
      exact hlinkQuery
    · have hkept := Reference.absolute_query hfound hlink htarget
      split
      · rename_i hempty
        rw [hempty] at hkept
        rw [← hkept.1]
        exact hlinkQuery
      · exact hkept
  have hpairs : writtenPairs front = writtenPairs p.target := by rw [writtenPairs, hquery.1, writtenPairs]
  rw [hurl]
  split
  · rename_i hempty
    have hnothing : Percent.fields "" = [] := rfl
    rw [hempty, hnothing, List.append_nil, hpairs]
  · rw [writtenPairs_added hquery.2 hraw, hpairs]

/-- **When a search carries all its pairs.**  A prepared search is sent under a link, with its address first of all.  With
inputs it carries its pairs exactly when each pair that is written in its address is an input as well; without inputs
exactly when each is in the query that was put together, as it is where nothing cuts the query short. -/
theorem carried_iff {σ : Type} (client : Client σ) {now : Moment} {d : Definition} {query : Query}
    {settings : List (String × Datum)} {p : PreparedSearch} {link : String} {timeout : Option Datum}
    {request : Request} {t : Target} (hprepared : prepare now d query settings = .ok p)
    (hmethod : p.path.method = .get) (hrequest : p.request link timeout = .ok request)
    (htarget : request.target = .ok t) (hheaders : ∀ field ∈ request.headers, ∀ c ∈ field.2.toList, c.toNat < 128)
    (s : σ) :
    ∃ sent, ((client.logged.fetch request).run (s, [])).2.2.head? = some sent ∧ sent.method = "GET" ∧
      sent.url = t.text ∧
      (p.CarriedBy d t ↔ if p.fields d = [] then ∀ pair ∈ p.written d, pair ∈ writtenPairs request.url
        else ∀ pair ∈ p.written d, pair ∈ p.fields d) ∧
      (p.fields d = [] → Unmarked link → Reference.IsTidy p.target → Unhashed (p.raw d) → p.CarriedBy d t) := by
  obtain ⟨haddress, hname, -⟩ := request_eq hmethod hrequest
  obtain ⟨hinputs, hraw⟩ := inputs_of_prepare hprepared
  have hpairs := sent_pairs hmethod hrequest htarget
  rw [hinputs] at hpairs
  have hupper : Text.upper "GET" = "GET" := by decide +kernel
  refine ⟨_, (Client.fetch_sends client htarget hheaders).head? s, by rw [hname, hupper], rfl, ?_, ?_⟩
  · rw [CarriedBy, hpairs]
    split
    · rename_i hnone
      simp [hnone]
    · exact and_iff_left fun pair hpair => hpair
  · intro hnone hlink htidy hhash
    rw [if_pos hnone] at hpairs
    rw [← hraw] at hhash
    rw [CarriedBy, hnone, hpairs, writtenPairs_address haddress hlink htidy hhash, hraw]
    exact ⟨fun pair hpair => hpair, by simp⟩

/-! ## Two sites -/

/-- A site that is searched by its path, with a limit behind it. -/
def pathSite : Definition where
  id := "site"
  name := "Site"
  links := ["https://site.example/"]
  search :=
    { paths := [{ path := "search?q=\x7b\x7b .Keywords \x7d\x7d" }], rows := { selector := "tr" }
      fields := [{ name := "title", selector := some "td" }], inputs := [("$raw", .text "limit=50")] }

/-- A search of that site. -/
def pathSearch : PreparedSearch :=
  (prepare dawn pathSite { keywords := "big buck" } []).toOption.getD default

/-- The request of that search. -/
def pathRequest : Request :=
  (pathSearch.request "https://site.example/" none).toOption.getD default

/-- A search by the path carries its keywords and the limit. -/
theorem carried_limit : ∃ sent, ((Client.silent.logged.fetch pathRequest).run ((), [])).2.2.head? = some sent ∧
    sent.url = "https://site.example/search?q=big%20buck&limit=50" ∧
    pathSearch.written pathSite = [("q", "big buck"), ("limit", "50")] ∧
    ∃ t, pathRequest.target = .ok t ∧ pathSearch.CarriedBy pathSite t := by
  have htarget : pathRequest.target =
      .ok { scheme := "https", host := "site.example", path := "/search", query := some "q=big%20buck&limit=50" } := by
    decide +kernel
  have hprepared : prepare dawn pathSite { keywords := "big buck" } [] = .ok pathSearch :=
    eq_ok_of_isOk (by decide +kernel)
  have hrequest : pathSearch.request "https://site.example/" none = .ok pathRequest :=
    eq_ok_of_isOk (by decide +kernel)
  have hheaders : ∀ field ∈ pathRequest.headers, ∀ c ∈ field.2.toList, c.toNat < 128 := by
    have hall : (pathRequest.headers.all fun field => field.2.toList.all fun c => decide (c.toNat < 128)) = true := by
      decide +kernel
    simpa only [List.all_eq_true, decide_eq_true_eq] using hall
  obtain ⟨sent, hsent, -, hurl, -, hcarried⟩ :=
    carried_iff Client.silent hprepared (by decide +kernel) hrequest htarget hheaders ()
  refine ⟨sent, hsent, ?_, by decide +kernel, _, htarget,
    hcarried (by decide +kernel) (by decide +kernel) (by decide +kernel) (by decide +kernel)⟩
  rw [hurl]
  decide +kernel

/-- A site with a limit that is added as it is, and with an input. -/
def limitedText : String := "id: site
name: Site
links: https://site.example/
search:
  path: s
  inputs: \x7b$raw: limit=50, q: '\x7b\x7b .Keywords \x7d\x7d'\x7d
  rows: tr
  fields: \x7btitle: td\x7d
"

/-- The site of that text. -/
def limitedSite : Definition where
  id := "site"
  name := "Site"
  links := ["https://site.example/"]
  search :=
    { paths := [{ path := "s" }], rows := { selector := "tr" }, fields := [{ name := "title", selector := some "td" }]
      inputs := [("$raw", .text "limit=50"), ("q", .text "\x7b\x7b .Keywords \x7d\x7d")] }

/-- A search of that site. -/
def limitedSearch : PreparedSearch :=
  (prepare dawn limitedSite { keywords := "dune" } []).toOption.getD default

/-- The request of that search. -/
def limitedRequest : Request :=
  (limitedSearch.request "https://site.example/" none).toOption.getD default

/-- A search with an input does not carry its limit. -/
theorem limit_not_carried : Definition.ofText limitedText = .ok limitedSite ∧
    (prepare dawn limitedSite { keywords := "dune" } []).isOk ∧
    (limitedSearch.request "https://site.example/" none).isOk ∧ limitedSearch.path.method = .get ∧
    ((Client.silent.logged.fetch limitedRequest).run ((), [])).2.2.map Sent.url = ["https://site.example/s?q=dune"] ∧
    limitedSearch.written limitedSite = [("limit", "50")] ∧
    ∃ t, limitedRequest.target = .ok t ∧ ¬ limitedSearch.CarriedBy limitedSite t := by
  refine ⟨by decide +kernel, by decide +kernel, by decide +kernel, by decide +kernel, by decide +kernel,
    by decide +kernel,
    { scheme := "https", host := "site.example", path := "/s", query := some "q=dune" }, by decide +kernel,
    by decide +kernel⟩

end PreparedSearch

end MetaSearch
