import MetaSearch.Proofs.Datum.Equality
import MetaSearch.Proofs.Release.Legible
import MetaSearch.Proofs.Search.Trail
import MetaSearch.Search.Indexer

/-!
# Rows side by side

What one row does to the others of an answer.  Rows are read one after another, and the first one that has no reading
ends the search.  `Row.Harmless` is the condition that a row does not, `releasesOf_isOk_iff` says it of all rows of an
answer, and `Searched` ties both kinds of searches, of sites and of endpoints, to the rows that they read.

The main result is `row_beside`: a harmless row leaves what the others come to as it is, and any other row breaks the
search for all of them.
-/

namespace MetaSearch

variable {σ : Type} {profile : SiteProfile} {now : Moment} {rows : List Row}

/-- A row that is passed over, or that can be read. -/
def Row.Harmless (row : Row) (profile : SiteProfile) (now : Moment) : Prop :=
  row.IsListed profile → row.Legible profile.mappings now

/-! ## The releases of rows -/

theorem releasesOf_cons (row : Row) (rows : List Row) (profile : SiteProfile) (now : Moment) :
    releasesOf (row :: rows) profile now = do
      let own ← row.release? profile now
      let others ← releasesOf rows profile now
      return own.toList ++ others := by
  simp only [releasesOf, List.mapM_cons]
  cases row.release? profile now with
  | error f => rfl
  | ok own =>
      cases rows.mapM fun row => row.release? profile now with
      | error f => rfl
      | ok others => cases own <;> rfl

theorem releasesOf_append (before after : List Row) (profile : SiteProfile) (now : Moment) :
    releasesOf (before ++ after) profile now = do
      let front ← releasesOf before profile now
      let back ← releasesOf after profile now
      return front ++ back := by
  simp only [releasesOf, List.mapM_append]
  cases before.mapM fun row => row.release? profile now with
  | error f => rfl
  | ok front =>
      cases after.mapM fun row => row.release? profile now with
      | error f => rfl
      | ok back => exact congrArg Except.ok (List.filterMap_append)

/-- Something can be made of the rows of an answer when all of them are harmless. -/
theorem releasesOf_isOk_iff (rows : List Row) (profile : SiteProfile) (now : Moment) :
    (releasesOf rows profile now).isOk = true ↔ ∀ row ∈ rows, row.Harmless profile now := by
  induction rows with
  | nil => exact iff_of_true rfl nofun
  | cons row rows ih =>
      have hrow : (row.release? profile now).isOk = true ↔ row.Harmless profile now :=
        row.release?_isOk_iff profile now
      rw [releasesOf_cons, List.forall_mem_cons, ← ih, ← hrow]
      cases row.release? profile now with
      | error f => exact iff_of_false Bool.false_ne_true fun h => Bool.false_ne_true h.1
      | ok own =>
          change (releasesOf rows profile now >>= fun others => pure (own.toList ++ others)).isOk = true ↔ _
          rw [isOk_bind_pure]
          exact (and_iff_right rfl).symm

/-! ## The rows of searches -/

/-- The rows that a search of a site arrives at. -/
def Definition.rows? (d : Definition) (net : Network σ) (now : Moment) (query : Query)
    (settings : List (String × Datum)) (timeout : Option Datum) (s : σ) : Option (List Row) :=
  match prepare now d query settings with
  | .error _ => none
  | .ok search =>
    match (Visit.walk (Visit.attempt net now d search timeout) none d.allLinks s).1 with
    | .arrived rows => some rows
    | _ => none

/-- The rows that an endpoint lists for a search. -/
def Endpoint.rows? (e : Endpoint) (net : Network σ) (query : Query) (timeout : Option Datum) (s : σ) :
    Option (List Row) :=
  match (net.fetch (e.request query timeout) s).1 with
  | .error _ => none
  | .ok response => if response.status ≥ 400 then none else (Feed.rows response.body).toOption

/-- A search of a site that arrives at rows comes to what is made of them. -/
theorem Definition.visit_of_rows? {d : Definition} {net : Network σ} {query : Query}
    {settings : List (String × Datum)} {timeout : Option Datum} {s : σ}
    (h : d.rows? net now query settings timeout s = some rows) :
    ((d.visit net now query settings timeout profile).run s).1 = d.outcome profile now (.arrived rows) := by
  unfold Definition.rows? at h
  cases hprepare : prepare now d query settings with
  | error f => simp [hprepare] at h
  | ok search =>
      rw [hprepare] at h
      simp only [Definition.visit, hprepare, bind, StateT.bind, StateT.run]
      rcases hwalked : Visit.walk (Visit.attempt net now d search timeout) none d.allLinks s with ⟨walked, s'⟩
      simp only [hwalked] at h
      cases walked with
      | arrived found =>
          obtain rfl : found = rows := Option.some.inj h
          rfl
      | exhausted last => exact absurd h (by simp)
      | faulted f => exact absurd h (by simp)

/-- A search of an endpoint, as what the endpoint lists. -/
theorem Endpoint.visit_run (e : Endpoint) (net : Network σ) (now : Moment) (query : Query) (timeout : Option Datum)
    (s : σ) :
    (e.visit net now query timeout).run s =
      match (e.releases net now query timeout).run s with
      | (.ok releases, s) => (.ok { indexerId := e.id, indexerName := e.name, releases }, s)
      | (.error (.fault f), s) => (.error f, s)
      | (.error (.setback b), s) =>
        (.ok { indexerId := e.id, indexerName := e.name
               failure := some { kind := .ofLast (some b), message := b.message, attempts := 1 } }, s) := by
  simp only [Endpoint.visit, bind, ExceptT.bind, ExceptT.run, ExceptT.mk, StateT.bind, liftM, monadLift,
    MonadLift.monadLift, ExceptT.lift, Functor.map, StateT.map]
  rcases e.releases net now query timeout s with ⟨⟨b | f⟩ | releases, t⟩ <;> rfl

/-- A search of an endpoint that lists rows comes to what is made of them, or does not come back. -/
theorem Endpoint.visit_of_rows? {e : Endpoint} {net : Network σ} {query : Query} {timeout : Option Datum} {s : σ}
    (h : e.rows? net query timeout s = some rows) :
    ((e.visit net now query timeout).run s).1 =
      (releasesOf rows e.profile now).map fun releases =>
        { indexerId := e.id, indexerName := e.name, releases } := by
  unfold Endpoint.rows? at h
  rcases hfetch : net.fetch (e.request query timeout) s with ⟨trouble | response, s'⟩
  · simp [hfetch] at h
  · simp only [hfetch] at h
    by_cases hstatus : response.status ≥ 400
    · simp [hstatus] at h
    · rw [if_neg hstatus] at h
      have hrows : Feed.rows response.body = .ok rows := by
        cases hrows : Feed.rows response.body with
        | error trouble => simp [hrows, Except.toOption] at h
        | ok found => simpa [hrows, Except.toOption] using h
      have hlisted : (e.releases net now query timeout).run s =
          (orTrouble (releasesOf rows e.profile now), s') := by
        rw [Endpoint.releases, exceptT_run_bind, ExceptT.run, hfetch]
        simp only [hstatus, if_false, hrows]
        rfl
      rw [Endpoint.visit_run, hlisted]
      cases releasesOf rows e.profile now <;> rfl

/-- A search that read some rows, and its result.  The search of a site always comes back; a fault in the search of an
endpoint is passed on. -/
inductive Searched (now : Moment) : SiteProfile → List Row → Except Fault Outcome → Prop
  | site {σ : Type} (net : Network σ) (d : Definition) (query : Query) (settings : List (String × Datum))
      (timeout : Option Datum) (profile : SiteProfile) (s : σ) (rows : List Row)
      (hrows : d.rows? net now query settings timeout s = some rows) :
      Searched now profile rows (.ok ((d.visit net now query settings timeout profile).run s).1)
  | endpoint {σ : Type} (net : Network σ) (e : Endpoint) (query : Query) (timeout : Option Datum) (s : σ)
      (rows : List Row) (hrows : e.rows? net query timeout s = some rows) :
      Searched now e.profile rows ((e.visit net now query timeout).run s).1

/-- A search came back with some releases. -/
def CameTo (r : Except Fault Outcome) (releases : List Release) : Prop :=
  ∃ o, r = .ok o ∧ o.Found releases

/-- A search came to nothing by a fault: it reports an internal failure, or did not come back. -/
def Broke : Except Fault Outcome → Prop
  | .ok o => o.Failed { kind := .internal }
  | .error _ => True

theorem CameTo.not_broke {r : Except Fault Outcome} {releases : List Release} (h : CameTo r releases) : ¬Broke r := by
  obtain ⟨o, rfl, -, hfailure⟩ := h
  rintro ⟨-, hinternal⟩
  rw [hfailure] at hinternal
  exact absurd hinternal nofun

namespace Searched

variable {r r' : Except Fault Outcome} {before after : List Row} {row : Row}

/-- A search comes to the releases of its rows, or breaks where nothing can be made of them. -/
theorem result (h : Searched now profile rows r) :
    match releasesOf rows profile now with
    | .ok releases => CameTo r releases
    | .error _ => Broke r := by
  cases h with
  | site net d query settings timeout profile s rows hrows =>
      rw [Definition.visit_of_rows? hrows, Definition.outcome]
      cases releasesOf rows profile now with
      | ok releases => exact ⟨_, rfl, rfl, rfl⟩
      | error f => exact ⟨rfl, rfl⟩
  | endpoint net e query timeout s rows hrows =>
      rw [Endpoint.visit_of_rows? hrows]
      cases releasesOf rows e.profile now with
      | ok releases => exact ⟨_, rfl, rfl, rfl⟩
      | error f => trivial

/-- A search breaks when some row of its answer is not harmless. -/
theorem broke_iff (h : Searched now profile rows r) : Broke r ↔ ∃ row ∈ rows, ¬row.Harmless profile now := by
  have hresult := h.result
  have hall := releasesOf_isOk_iff rows profile now
  cases hreleases : releasesOf rows profile now with
  | ok found =>
      rw [hreleases] at hresult hall
      refine iff_of_false hresult.not_broke ?_
      rintro ⟨row, hrow, hharm⟩
      exact hharm (hall.mp rfl row hrow)
  | error f =>
      rw [hreleases] at hresult hall
      refine iff_of_true hresult ?_
      by_contra hnone
      refine absurd (hall.mpr fun row hrow => ?_) Bool.false_ne_true
      by_contra hharm
      exact hnone ⟨row, hrow, hharm⟩

/-- **What a row does to the others.**  Take a search that reads a row among others and one that reads the others alone.
A harmless row adds its own release, or none, and leaves those of the others as they are, or their search as broken as
it is.  Of any other row nothing is made, and the search that reads it breaks. -/
theorem row_beside (h : Searched now profile (before ++ row :: after) r)
    (h' : Searched now profile (before ++ after) r') :
    (row.Harmless profile now → ∃ own, row.release? profile now = .ok own ∧
      ((∃ front back, releasesOf before profile now = .ok front ∧ releasesOf after profile now = .ok back ∧
          CameTo r' (front ++ back) ∧ CameTo r (front ++ own.toList ++ back)) ∨
        Broke r' ∧ Broke r)) ∧
    (¬row.Harmless profile now → (∃ f, row.release? profile now = .error f) ∧ Broke r) := by
  have hrow : (row.release? profile now).isOk = true ↔ row.Harmless profile now := row.release?_isOk_iff profile now
  constructor
  · intro hharmless
    obtain ⟨own, hown⟩ := exists_of_isOk (hrow.mpr hharmless)
    refine ⟨own, hown, ?_⟩
    have hresult := h.result
    have hresult' := h'.result
    rw [releasesOf_append, releasesOf_cons, hown] at hresult
    rw [releasesOf_append] at hresult'
    cases hfront : releasesOf before profile now with
    | error f =>
        rw [hfront] at hresult hresult'
        exact .inr ⟨hresult', hresult⟩
    | ok front =>
        cases hback : releasesOf after profile now with
        | error f =>
            rw [hfront, hback] at hresult hresult'
            exact .inr ⟨hresult', hresult⟩
        | ok back =>
            rw [hfront, hback] at hresult hresult'
            refine .inl ⟨front, back, rfl, rfl, hresult', ?_⟩
            rw [List.append_assoc]
            exact hresult
  · intro hharm
    refine ⟨?_, h.broke_iff.mpr ⟨row, by simp, hharm⟩⟩
    cases hread : row.release? profile now with
    | ok own => exact absurd (hrow.mp (isOk_of_eq hread)) hharm
    | error f => exact ⟨f, rfl⟩

end Searched

/-! ## A number without bounds

Numbers in answers can be written with exponents, and one of `1e999` is read as infinite. -/

namespace Listing

/-- A site that answers with a plain list of entries. -/
def site : Definition where
  id := "list"
  name := "List"
  links := ["https://list.test/"]
  search := { paths := [{ path := "q.php", shape := .apibay }], rows := { selector := "$" }, fields := [] }

/-- A site that answers everything with the same entries. -/
def net (entries : List String) : Network Unit where
  fetch _ := pure { status := 200, body := "[" ++ ",".intercalate entries ++ "]" }

/-- An entry of a list that leaves most things open. -/
def plain : String := "\x7b\"id\":1,\"name\":\"Dune\",\"info_hash\":\"8\"\x7d"

/-- An entry of a list with an infinite number of seeders. -/
def boundless : String := "\x7b\"id\":2,\"name\":\"Dune\",\"info_hash\":\"9\",\"seeders\":1e999\x7d"

/-- The beginning of time. -/
def origin : Moment := ⟨0, 0, by decide⟩

/-- What a search of the site comes to. -/
def outcome (entries : List String) : Outcome :=
  ((site.visit (net entries) origin { keywords := "dune" } [] none (site.profile none)).run ()).1

/-- The row of an entry. -/
def row (id hash : String) (seeders : Datum) : Row :=
  [("title", .text "Dune"), ("infohash", .text hash), ("size", .null), ("seeders", seeders), ("leechers", .null),
    ("date", .null), ("details", .text ("https://list.test/description.php?id=" ++ id)), ("category", .text "8000")]

def plainRow : Row := row "1" "8" .null

def boundlessRow : Row := row "2" "9" (.float (.infinite false))

theorem rows?_plain : site.rows? (net [plain]) origin { keywords := "dune" } [] none () = some [plainRow] := by
  decide +kernel

theorem rows?_boundless :
    site.rows? (net [plain, boundless]) origin { keywords := "dune" } [] none () = some [plainRow, boundlessRow] := by
  decide +kernel

/-- An entry with a number of seeders that is infinite takes the entry beside it with it. -/
theorem boundless_breaks :
    (outcome [plain]).releases.length = 1 ∧ (outcome [plain]).failure = none ∧
      (outcome [plain, boundless]).Failed { kind := .internal } := by
  rw [outcome, outcome, Definition.visit_of_rows? rows?_plain, Definition.visit_of_rows? rows?_boundless,
    Outcome.Failed]
  decide +kernel

/-- The row of that entry is not harmless, and the search that reads it breaks. -/
theorem boundlessRow_beside :
    Searched origin (site.profile none) ([plainRow] ++ boundlessRow :: []) (.ok (outcome [plain, boundless])) ∧
      Searched origin (site.profile none) ([plainRow] ++ []) (.ok (outcome [plain])) ∧
      ¬boundlessRow.Harmless (site.profile none) origin ∧
      (∃ f, boundlessRow.release? (site.profile none) origin = .error f) ∧
      Broke (.ok (outcome [plain, boundless])) := by
  have h : Searched origin (site.profile none) ([plainRow] ++ boundlessRow :: [])
      (.ok (outcome [plain, boundless])) := by
    rw [outcome]
    exact .site _ _ _ _ _ _ _ _ rows?_boundless
  have h' : Searched origin (site.profile none) ([plainRow] ++ []) (.ok (outcome [plain])) := by
    rw [outcome]
    exact .site _ _ _ _ _ _ _ _ rows?_plain
  have hharm : ¬boundlessRow.Harmless (site.profile none) origin := by
    intro hharmless
    have hlisted : boundlessRow.IsListed (site.profile none) := by
      rw [Row.IsListed]
      decide +kernel
    exact absurd (hharmless hlisted).seeders Bool.false_ne_true
  exact ⟨h, h', hharm, (Searched.row_beside h h').2 hharm⟩

end Listing

end MetaSearch
