import MetaSearch.Proofs.Release.Sorted
import MetaSearch.Proofs.Search.Rows
import MetaSearch.Proofs.Search.Trail
import MetaSearch.Search.Aggregate
import MetaSearch.Search.Catalog
import Mathlib.Algebra.Ring.Nat
import Mathlib.Data.List.Count

/-!
# Every indexer is accounted for

A search of many indexers never fails as a whole.  Each indexer that is asked comes to an outcome of its own, whatever
it does; the page has one summary for each of them and one error for each failure, and an indexer that breaks takes
away nothing but what it would have found itself.

The file goes from one searcher to all of them.

* `Searcher.search_endingIn` is about a single search: another reply changes the outcome and nothing else.
* `outcomesOf_replaced` is the same for a whole catalog, by the place of the indexer in it.
* `ResultPage.AccountsFor` says what a page tells about some outcomes, and `page_accountsFor` that every page of a plan
  does so.
* `search_accounted` puts them together for a question.
-/

namespace MetaSearch

variable {σ : Type}

/-! ## Questions that can be put -/

/-- A question that a search can be made of. -/
structure SearchForm.IsValid (f : SearchForm) (greatest : Int) : Prop where
  text : (Text.strip f.text).isEmpty = false
  field : f.sortBy ∈ SortField.names.map (·.1)
  order : f.sortOrder = "asc" ∨ f.sortOrder = "desc"
  limit : 1 ≤ f.limit ∧ f.limit ≤ greatest
  offset : 0 ≤ f.offset

/-- The names that stand for a property are those of the table. -/
theorem SortField.ofName?_isSome_iff {name : String} : (ofName? name).isSome ↔ name ∈ names.map (·.1) := by
  simp [ofName?, List.find?_isSome]

/-- There are two orders. -/
theorem descending?_isSome_iff {order : String} : (descending? order).isSome ↔ order = "asc" ∨ order = "desc" := by
  unfold descending?
  split <;> simp_all

/-- A question passes the check exactly when it is valid, and what it asks for stays as it is. -/
theorem SearchForm.check_isOk_iff (f : SearchForm) (greatest : Int) :
    (∃ q, f.check greatest = .ok q ∧ q.indexerIds = f.indexerIds ∧ q.categoryIds = f.categoryIds) ↔
      f.IsValid greatest := by
  constructor
  · rintro ⟨q, hq, -⟩
    simp only [check] at hq
    split at hq
    · simp at hq
    rename_i htext
    split at hq
    · simp at hq
    rename_i field hfield
    split at hq
    · simp at hq
    rename_i descending horder
    split at hq
    · simp at hq
    rename_i hlimit
    split at hq
    · simp at hq
    rename_i hoffset
    exact ⟨by simpa using htext, SortField.ofName?_isSome_iff.mp (by simp [hfield]),
      descending?_isSome_iff.mp (by simp [horder]), by omega, by omega⟩
  · intro h
    obtain ⟨field, hfield⟩ := Option.isSome_iff_exists.mp (SortField.ofName?_isSome_iff.mpr h.field)
    obtain ⟨descending, horder⟩ := Option.isSome_iff_exists.mp (descending?_isSome_iff.mpr h.order)
    have hlimit : ¬ (f.limit < 1 ∨ greatest < f.limit) := by
      have := h.limit
      omega
    have hoffset : ¬ f.offset < 0 := by
      have := h.offset
      omega
    simp only [check, h.text, hfield, horder, hlimit, hoffset, if_false]
    exact ⟨_, rfl, rfl, rfl⟩

/-! ## One searcher -/

namespace Searcher

/-- Whatever a searcher finds, it finds under its own identifier. -/
def RepliesAsItself (x : Searcher σ) : Prop :=
  ∀ query s o, ((x.ask query).run s).1 = .outcome o → o.indexerId = x.id

/-- A reply is a failure of the searcher that nothing was found for. -/
def FailsWith (x : Searcher σ) : Reply → Prop
  | .outcome o => o.indexerId = x.id ∧ o.failure.isSome ∧ o.releases = []
  | .crashed _ => True
  | .late => True

/-- The searcher, except that its searches end in a given reply, whatever they would have come to. -/
def endingIn (x : Searcher σ) (reply : Reply) : Searcher σ where
  id := x.id
  name := x.name
  ask query := do
    let _ ← x.ask query
    return reply

/-- What a search comes to, and what it does on the way. -/
theorem search_run (x : Searcher σ) (deadline : Binary64) (query : Query) (s : σ) :
    (x.search deadline query).run s =
      if deadline.isZero || deadline.lt .zero then (x.settle deadline .late, s)
      else (x.settle deadline ((x.ask query).run s).1, ((x.ask query).run s).2) := by
  simp only [search]
  split <;> rfl

/-- A search comes to an outcome under the searcher's identifier. -/
theorem search_indexerId {x : Searcher σ} (hx : x.RepliesAsItself) (deadline : Binary64) (query : Query) (s : σ) :
    ((x.search deadline query).run s).1.indexerId = x.id := by
  rw [search_run]
  split
  · rfl
  · change (x.settle deadline ((x.ask query).run s).1).indexerId = x.id
    cases hreply : ((x.ask query).run s).1 with
    | outcome o => exact hx query s o hreply
    | crashed message => rfl
    | late => rfl

/-- With another reply in the end a search does the same on the way, and it comes to a failure if the reply is one. -/
theorem search_endingIn {x : Searcher σ} {reply : Reply} (hreply : x.FailsWith reply) (deadline : Binary64)
    (query : Query) (s : σ) :
    ∃ failed : Outcome, failed.indexerId = x.id ∧ failed.failure.isSome ∧ failed.releases = [] ∧
      ((x.endingIn reply).search deadline query).run s = (failed, ((x.search deadline query).run s).2) := by
  rw [search_run, search_run]
  split
  · exact ⟨_, rfl, rfl, rfl, rfl⟩
  · cases reply with
    | outcome o => exact ⟨o, hreply.1, hreply.2.1, hreply.2.2, rfl⟩
    | crashed message => exact ⟨_, rfl, rfl, rfl, rfl⟩
    | late => exact ⟨_, rfl, rfl, rfl, rfl⟩

end Searcher

/-- Whatever the links of a site came to, the outcome is under the site's identifier. -/
theorem Definition.indexerId_outcome (d : Definition) (profile : SiteProfile) (now : Moment)
    (walked : Walked (List Row)) : (d.outcome profile now walked).indexerId = d.id := by
  cases walked with
  | arrived rows =>
      simp only [outcome]
      split <;> rfl
  | exhausted last => rfl
  | faulted f => rfl

/-- A search of a site comes to an outcome under the site's identifier. -/
theorem Definition.indexerId_visit (d : Definition) (net : Network σ) (now : Moment) (query : Query)
    (settings : List (String × Datum)) (timeout : Option Datum) (profile : SiteProfile) (s : σ) :
    ((d.visit net now query settings timeout profile).run s).1.indexerId = d.id := by
  unfold visit
  split
  · rfl
  · exact d.indexerId_outcome profile now _

/-- Where a search of an endpoint comes to an outcome, it is under the endpoint's identifier. -/
theorem Endpoint.indexerId_of_visit {e : Endpoint} {net : Network σ} {now : Moment} {query : Query}
    {timeout : Option Datum} {s : σ} {o : Outcome} (h : ((e.visit net now query timeout).run s).1 = .ok o) :
    o.indexerId = e.id := by
  rw [visit_run] at h
  rcases hreleases : (e.releases net now query timeout).run s with ⟨(b | f) | releases, s'⟩ <;> rw [hreleases] at h
  · rw [← Except.ok.inj h]
  · cases h
  · rw [← Except.ok.inj h]

/-- Sites and endpoints reply under their own identifiers. -/
theorem Indexer.searcher_repliesAsItself (net : Network σ) (now : Moment) (timeout : Option Datum)
    (message : Fault → String) (i : Indexer) : (i.searcher net now timeout message).RepliesAsItself := by
  intro query s o hreply
  cases i with
  | site d priority settings =>
      have houtcome : ((d.visit net now query settings timeout (d.profile priority)).run s).1 = o :=
        Reply.outcome.inj hreply
      rw [← houtcome]
      exact d.indexerId_visit net now query settings timeout _ s
  | endpoint e =>
      rcases hvisit : (e.visit net now query timeout).run s with ⟨f | o', s'⟩
      · have hask : ((((Indexer.endpoint e).searcher net now timeout message).ask query).run s).1 =
            .crashed (message f) := by
          simp only [searcher, ask, bind, StateT.bind, StateT.run, ExceptT.run] at hvisit ⊢
          rw [hvisit]
          rfl
        rw [hask] at hreply
        cases hreply
      · have hask : ((((Indexer.endpoint e).searcher net now timeout message).ask query).run s).1 = .outcome o' := by
          simp only [searcher, ask, bind, StateT.bind, StateT.run, ExceptT.run] at hvisit ⊢
          rw [hvisit]
          rfl
        rw [hask] at hreply
        rw [← Reply.outcome.inj hreply]
        exact Endpoint.indexerId_of_visit (congrArg Prod.fst hvisit)

/-! ## All searchers -/

/-- What asking searchers one after the other comes to. -/
def outcomesOf (searchers : List (Searcher σ)) (deadline : Binary64) (query : Query) : StateM σ (List Outcome) :=
  searchers.mapM fun x => x.search deadline query

/-- The catalog in which the searches of one searcher end in a given reply. -/
def replaced (available : List (Searcher σ)) (id : String) (reply : Reply) : List (Searcher σ) :=
  available.map fun x => if x.id = id then x.endingIn reply else x

/-- The first of some searchers is asked before the others. -/
theorem outcomesOf_cons (x : Searcher σ) (rest : List (Searcher σ)) (deadline : Binary64) (query : Query) (s : σ) :
    (outcomesOf (x :: rest) deadline query).run s =
      let (o, s) := (x.search deadline query).run s
      let (outcomes, s) := (outcomesOf rest deadline query).run s
      (o :: outcomes, s) := by
  simp only [outcomesOf, List.mapM_cons]
  rfl

/-- Each searcher comes to an outcome under its identifier, in the order of the searchers. -/
theorem outcomesOf_indexerIds {searchers : List (Searcher σ)} (h : ∀ x ∈ searchers, x.RepliesAsItself)
    (deadline : Binary64) (query : Query) (s : σ) :
    ((outcomesOf searchers deadline query).run s).1.map Outcome.indexerId = searchers.map Searcher.id := by
  induction searchers generalizing s with
  | nil => rfl
  | cons x rest ih =>
      rw [outcomesOf_cons, List.map_cons, ← ih (fun y hy => h y (List.mem_cons_of_mem x hy))
        ((x.search deadline query).run s).2, ← Searcher.search_indexerId (h x List.mem_cons_self) deadline query s]
      rfl

/-- A searcher that is not in a catalog cannot be replaced in it. -/
theorem replaced_of_not_mem {available : List (Searcher σ)} {id : String} (h : id ∉ available.map Searcher.id)
    (reply : Reply) : replaced available id reply = available := by
  have hother : ∀ x ∈ available, (if x.id = id then x.endingIn reply else x) = x := by
    intro x hx
    exact if_neg fun hid : x.id = id => h (hid ▸ List.mem_map_of_mem hx)
  simpa [replaced] using List.map_congr_left hother

/-- The identifiers of a catalog stay when a searcher is replaced. -/
theorem map_id_replaced (available : List (Searcher σ)) (id : String) (reply : Reply) :
    (replaced available id reply).map Searcher.id = available.map Searcher.id := by
  simp only [replaced, List.map_map]
  refine List.map_congr_left fun x _ => ?_
  simp only [Function.comp]
  split <;> rfl

/-- **A failure takes the place of one outcome.**  When the searches of one searcher end in a failure instead, the
outcomes before it and behind it are what they were. -/
theorem outcomesOf_replaced {searchers : List (Searcher σ)} (hids : (searchers.map Searcher.id).Nodup)
    (hown : ∀ x ∈ searchers, x.RepliesAsItself) {x : Searcher σ} (hx : x ∈ searchers) {reply : Reply}
    (hreply : x.FailsWith reply) (deadline : Binary64) (query : Query) (s : σ) :
    ∃ (before : List Outcome) (o failed : Outcome) (after : List Outcome),
      ((outcomesOf searchers deadline query).run s).1 = before ++ o :: after ∧
      ((outcomesOf (replaced searchers x.id reply) deadline query).run s).1 = before ++ failed :: after ∧
      o.indexerId = x.id ∧ failed.indexerId = x.id ∧ failed.failure.isSome ∧ failed.releases = [] := by
  induction searchers generalizing s with
  | nil => simp at hx
  | cons y rest ih =>
      obtain ⟨hy, hrest⟩ := List.nodup_cons.mp hids
      rcases List.mem_cons.mp hx with rfl | hx
      · obtain ⟨failed, hid, hfailure, hreleases, hrun⟩ := Searcher.search_endingIn hreply deadline query s
        have hreplaced : replaced (x :: rest) x.id reply = x.endingIn reply :: rest := by
          rw [replaced, List.map_cons, if_pos rfl, ← replaced, replaced_of_not_mem hy]
        refine ⟨[], ((x.search deadline query).run s).1, failed,
          ((outcomesOf rest deadline query).run ((x.search deadline query).run s).2).1, by rw [outcomesOf_cons]; rfl, ?_,
          Searcher.search_indexerId (hown x List.mem_cons_self) deadline query s, hid, hfailure, hreleases⟩
        rw [hreplaced, outcomesOf_cons, hrun]
        rfl
      · obtain ⟨before, o, failed, after, houtcomes, hfailed, hrest⟩ :=
          ih hrest (fun z hz => hown z (List.mem_cons_of_mem y hz)) hx ((y.search deadline query).run s).2
        have hne : y.id ≠ x.id := fun h => hy (h ▸ List.mem_map_of_mem hx)
        have hreplaced : replaced (y :: rest) x.id reply = y :: replaced rest x.id reply := by
          rw [replaced, List.map_cons, if_neg hne, replaced]
        refine ⟨((y.search deadline query).run s).1 :: before, o, failed, after, ?_, ?_, hrest⟩
        · rw [outcomesOf_cons, List.cons_append, ← houtcomes]
          rfl
        · rw [hreplaced, outcomesOf_cons, List.cons_append, ← hfailed]
          rfl

/-! ## What is asked -/

/-- The searchers that a question is put to. -/
def SearchForm.asked (f : SearchForm) (available : List (Searcher σ)) : List (Searcher σ) :=
  available.filter fun x => f.indexerIds.isEmpty || f.indexerIds.contains x.id

/-- The identifiers in a question that no searcher has, each once and in the order of the question. -/
def SearchForm.unknown (f : SearchForm) (available : List (Searcher σ)) : List String :=
  f.indexerIds.eraseDups.filter fun id => !(available.map Searcher.id).contains id

/-- An identifier in a question is that of a searcher that is asked if it is that of any searcher. -/
theorem SearchForm.mem_asked_iff {f : SearchForm} {available : List (Searcher σ)} {id : String}
    (hid : id ∈ f.indexerIds) : id ∈ (f.asked available).map Searcher.id ↔ id ∈ available.map Searcher.id := by
  simp only [asked, List.mem_map, List.mem_filter, Bool.or_eq_true, List.contains_iff_mem]
  constructor
  · rintro ⟨x, ⟨hx, -⟩, rfl⟩
    exact ⟨x, hx, rfl⟩
  · rintro ⟨x, hx, rfl⟩
    exact ⟨x, ⟨hx, .inr hid⟩, rfl⟩

/-- What a question selects of a catalog. -/
theorem Aggregator.select_eq (available : List (Searcher σ)) (f : SearchForm) :
    select available f.indexerIds = (f.asked available, (f.unknown available).map SearchError.unknown) := by
  by_cases hnone : f.indexerIds = []
  · simp [select, SearchForm.asked, SearchForm.unknown, hnone]
  · have hunknown : f.unknown available =
        f.indexerIds.eraseDups.filter fun id => !((f.asked available).map Searcher.id).contains id := by
      refine List.filter_congr fun id hid => ?_
      rw [Bool.eq_iff_iff]
      simp only [Bool.not_eq_true', ← Bool.not_eq_true, List.contains_iff_mem,
        SearchForm.mem_asked_iff (List.mem_eraseDups.mp hid)]
    have hempty : f.indexerIds.isEmpty = false := by simpa using hnone
    simp only [select, hempty, hunknown, SearchForm.asked, Bool.false_or, Bool.false_eq_true, if_false]

/-- The plan of a question for a catalog. -/
def SearchForm.planned (f : SearchForm) (q : Inquiry) (forwarded : List Int) (available : List (Searcher σ)) :
    SearchPlan σ where
  inquiry := q
  searchers := f.asked available
  unknown := (f.unknown available).map SearchError.unknown
  query := { keywords := q.text, categories := forwarded }
  key := searchKey q.text ((f.asked available).map Searcher.id) forwarded

/-- A valid question has a plan for every catalog. -/
theorem Aggregator.exists_plan (a : Aggregator σ) {f : SearchForm} (hf : f.IsValid a.maxLimit) :
    ∃ q forwarded, q.categoryIds = f.categoryIds ∧
      ∀ available : List (Searcher σ), a.plan available f = .ok (f.planned q forwarded available) := by
  obtain ⟨q, hq, hids, hcategories⟩ := (f.check_isOk_iff a.maxLimit).mpr hf
  refine ⟨q, if a.forwards then q.categoryIds else [], hcategories, fun available => ?_⟩
  simp only [plan, hq, Except.map, hids, select_eq, SearchForm.planned]

/-! ## What a page tells -/

/-- What a page tells about the outcomes that the searchers of a question came to. -/
structure ResultPage.AccountsFor (page : ResultPage) (f : SearchForm) (available : List (Searcher σ))
    (outcomes : List Outcome) : Prop where
  /-- Every searcher that is asked came to an outcome. -/
  asked : outcomes.map Outcome.indexerId = (f.asked available).map Searcher.id
  /-- There is one summary for every searcher that is asked, in the order of the catalog. -/
  summaries : page.summaries.map Summary.indexerId = (f.asked available).map Searcher.id
  /-- The summaries count the releases that were found together. -/
  counts : (page.summaries.map Summary.count).sum = (Merged.ofOutcomes outcomes).releases.length
  /-- Without wanted categories these are all releases on all pages. -/
  total : f.categoryIds = [] → page.total = (Merged.ofOutcomes outcomes).releases.length
  /-- A searcher has one summary, by what it came to, and it has an error, a single one, if that was a failure. -/
  told : ∀ x o, (x, o) ∈ (f.asked available).zip outcomes →
    (∃ summary, page.summaries.filter (·.indexerId == x.id) = [summary] ∧ summary.count = o.releases.length ∧
      summary.isSuccess = o.isSuccess) ∧
    page.errors.filter (·.indexerId == x.id) = o.error?.toList
  /-- The errors begin with what nobody knows, in the order of the question. -/
  errors : page.errors = (f.unknown available).map SearchError.unknown ++ outcomes.filterMap Outcome.error?
  /-- Everything in the question is told about once: it has a summary, or nobody knows it. -/
  requested : ∀ id ∈ f.indexerIds,
    (page.summaries.map Summary.indexerId).count id + (f.unknown available).count id = 1

/-- The only one of some outcomes with an identifier. -/
theorem filter_indexerId {outcomes : List Outcome} (h : (outcomes.map Outcome.indexerId).Nodup) {o : Outcome}
    (ho : o ∈ outcomes) : outcomes.filter (·.indexerId == o.indexerId) = [o] := by
  induction outcomes with
  | nil => simp at ho
  | cons first rest ih =>
      obtain ⟨hfirst, hrest⟩ := List.nodup_cons.mp h
      rcases List.mem_cons.mp ho with rfl | ho
      · have hnone : rest.filter (·.indexerId == o.indexerId) = [] := by
          rw [List.filter_eq_nil_iff]
          intro other hother heq
          exact hfirst ((beq_iff_eq.mp heq) ▸ List.mem_map_of_mem hother)
        rw [List.filter_cons_of_pos (by simp), hnone]
      · have hne : first.indexerId ≠ o.indexerId := by
          intro heq
          exact hfirst (heq ▸ List.mem_map_of_mem ho)
        rw [List.filter_cons_of_neg (by simpa using hne), ih hrest ho]

/-- The errors under an identifier are those of the outcomes under it. -/
theorem filter_errors (outcomes : List Outcome) (id : String) :
    (outcomes.filterMap Outcome.error?).filter (·.indexerId == id) =
      (outcomes.filter (·.indexerId == id)).filterMap Outcome.error? := by
  rw [List.filter_filterMap, List.filterMap_filter]
  refine List.filterMap_congr fun o _ => ?_
  cases hfailure : o.failure with
  | none => by_cases hid : o.indexerId = id <;> simp [Outcome.error?, hfailure, hid]
  | some failure => by_cases hid : o.indexerId = id <;> simp [Outcome.error?, hfailure, hid, Option.filter]

/-- Nobody has an identifier that nobody knows. -/
theorem SearchForm.not_mem_unknown {f : SearchForm} {available : List (Searcher σ)} {id : String}
    (hid : id ∈ available.map Searcher.id) : id ∉ f.unknown available := by
  intro hunknown
  have hnot := (List.mem_filter.mp hunknown).2
  simp only [Bool.not_eq_true', ← Bool.not_eq_true, List.contains_iff_mem] at hnot
  exact hnot hid

/-- There is no entry for what nobody knows under the identifier of a searcher. -/
theorem SearchForm.filter_unknown {f : SearchForm} {available : List (Searcher σ)} {id : String}
    (hid : id ∈ available.map Searcher.id) :
    ((f.unknown available).map SearchError.unknown).filter (·.indexerId == id) = [] := by
  rw [List.filter_eq_nil_iff]
  intro e he heq
  obtain ⟨other, hother, rfl⟩ := List.mem_map.mp he
  exact f.not_mem_unknown hid ((beq_iff_eq.mp heq) ▸ hother)

/-- A searcher and the outcome at the same place have one identifier. -/
theorem indexerId_of_mem_zip {searchers : List (Searcher σ)} {outcomes : List Outcome}
    (h : outcomes.map Outcome.indexerId = searchers.map Searcher.id) {x : Searcher σ} {o : Outcome}
    (hxo : (x, o) ∈ searchers.zip outcomes) : o.indexerId = x.id := by
  induction searchers generalizing outcomes with
  | nil => simp at hxo
  | cons y rest ih =>
      cases outcomes with
      | nil => simp at hxo
      | cons first others =>
          obtain ⟨hfirst, hothers⟩ := List.cons.inj h
          rcases List.mem_cons.mp hxo with heq | hxo
          · obtain ⟨rfl, rfl⟩ := Prod.mk.inj heq
            exact hfirst
          · exact ih hothers hxo

/-- **A page accounts for what it is made from.** -/
theorem page_accountsFor {available : List (Searcher σ)} (hids : (available.map Searcher.id).Nodup) {f : SearchForm}
    {p : SearchPlan σ} (hcategories : p.inquiry.categoryIds = f.categoryIds)
    (hunknown : p.unknown = (f.unknown available).map SearchError.unknown) {outcomes : List Outcome}
    (houtcomes : outcomes.map Outcome.indexerId = (f.asked available).map Searcher.id) (cached : Bool) :
    (Aggregator.page p (.ofOutcomes outcomes) cached).AccountsFor f available outcomes := by
  have hasked : ((f.asked available).map Searcher.id).Nodup :=
    hids.sublist ((List.filter_sublist (l := available)).map Searcher.id)
  have hsummaries : (outcomes.map Outcome.summary).map Summary.indexerId = (f.asked available).map Searcher.id := by
    rw [← houtcomes, List.map_map]
    rfl
  refine ⟨houtcomes, hsummaries, ?_, ?_, ?_, ?_, ?_⟩
  · rw [Merged.length_releases_ofOutcomes]
    change ((Merged.ofOutcomes outcomes).summaries.map Summary.count).sum = _
    rw [List.sum_eq_foldr, List.foldr_map]
  · intro hnone
    change ((Merged.ofOutcomes outcomes).wanted p.inquiry).length = _
    have hall : (Merged.ofOutcomes outcomes).releases.filter (Release.isFiledUnder p.inquiry.categoryIds) =
        (Merged.ofOutcomes outcomes).releases := by
      rw [hcategories, hnone]
      exact List.filter_eq_self.mpr fun _ _ => rfl
    rw [Merged.wanted, (Release.sorted_perm _ _ _).length_eq, hall]
  · intro x o hxo
    obtain ⟨hx, ho⟩ := List.of_mem_zip hxo
    have hid : o.indexerId = x.id := indexerId_of_mem_zip houtcomes hxo
    have honly : outcomes.filter (·.indexerId == x.id) = [o] := by
      rw [← hid]
      exact filter_indexerId (houtcomes ▸ hasked) ho
    refine ⟨⟨o.summary, ?_, rfl, ?_⟩, ?_⟩
    · change (outcomes.map Outcome.summary).filter (·.indexerId == x.id) = [o.summary]
      rw [List.filter_map]
      exact congrArg (List.map Outcome.summary) honly
    · simp [Summary.isSuccess, Outcome.summary, Outcome.isSuccess]
    · change (p.unknown ++ outcomes.filterMap Outcome.error?).filter (·.indexerId == x.id) = o.error?.toList
      rw [List.filter_append, hunknown, f.filter_unknown (List.mem_map_of_mem (List.mem_filter.mp hx).1),
        List.nil_append, filter_errors, honly, List.filterMap_cons]
      cases o.error? <;> rfl
  · rw [← hunknown]
    rfl
  · intro id hid
    change ((outcomes.map Outcome.summary).map Summary.indexerId).count id + _ = 1
    have hdistinct : (f.unknown available).Nodup := (nodup_eraseDups f.indexerIds).filter _
    rw [hsummaries, hasked.count, hdistinct.count]
    by_cases hknown : id ∈ available.map Searcher.id
    · rw [if_pos ((f.mem_asked_iff hid).mpr hknown), if_neg (f.not_mem_unknown hknown)]
    · rw [if_neg fun h => hknown ((f.mem_asked_iff hid).mp h), if_pos]
      exact List.mem_filter.mpr ⟨List.mem_eraseDups.mpr hid, by simpa using hknown⟩

/-! ## A whole search -/

namespace Aggregator

/-- A search that misses the cache asks the searchers, and its page is made from what they come to. -/
theorem search_run_of_miss {a : Aggregator σ} {available : List (Searcher σ)} {f : SearchForm} {p : SearchPlan σ}
    (hplan : a.plan available f = .ok p) {s : σ} (hmiss : ((a.retrieve p).run s).1 = none) :
    ((a.search available f).run s).1 = .ok (page p
      (.ofOutcomes ((outcomesOf p.searchers a.deadline p.query).run ((a.retrieve p).run s).2).1) false) := by
  have hcarry : ((a.carryOut p).run s).1 = page p
      (.ofOutcomes ((outcomesOf p.searchers a.deadline p.query).run ((a.retrieve p).run s).2).1) false := by
    simp only [carryOut, bind, StateT.bind, StateT.run] at hmiss ⊢
    rcases hread : a.retrieve p s with ⟨_ | m, s'⟩
    · rfl
    · rw [hread] at hmiss
      cases hmiss
  simp only [search, hplan]
  rw [← hcarry]
  rfl

end Aggregator

/-- A searcher is asked in a catalog with a replaced searcher if it is asked in the catalog. -/
theorem SearchForm.asked_replaced (f : SearchForm) (available : List (Searcher σ)) (id : String) (reply : Reply) :
    f.asked (replaced available id reply) = replaced (f.asked available) id reply := by
  simp only [asked, replaced, List.filter_map]
  congr 1
  refine List.filter_congr fun x _ => ?_
  simp only [Function.comp]
  split <;> rfl

/-- What nobody knows stays unknown when a searcher is replaced. -/
theorem SearchForm.unknown_replaced (f : SearchForm) (available : List (Searcher σ)) (id : String) (reply : Reply) :
    f.unknown (replaced available id reply) = f.unknown available := by
  simp only [unknown, map_id_replaced]

/-- A replaced searcher is all that is new in a plan. -/
theorem SearchForm.planned_replaced (f : SearchForm) (q : Inquiry) (forwarded : List Int)
    (available : List (Searcher σ)) (id : String) (reply : Reply) :
    f.planned q forwarded (replaced available id reply) =
      { f.planned q forwarded available with searchers := replaced (f.asked available) id reply } := by
  simp only [planned, asked_replaced, unknown_replaced, map_id_replaced]

/-- A failure in the place of an outcome takes away what that outcome found, and nothing else. -/
theorem releases_without (before after : List Outcome) (o : Outcome) {failed : Outcome} (hfailed : failed.releases = []) :
    (Merged.ofOutcomes (before ++ o :: after)).releases =
        before.flatMap Outcome.releases ++ o.releases ++ after.flatMap Outcome.releases ∧
      (Merged.ofOutcomes (before ++ failed :: after)).releases =
        before.flatMap Outcome.releases ++ after.flatMap Outcome.releases := by
  simp [Merged.ofOutcomes, hfailed]

/-- **Partial failure is accounted for and goes no further.**  A valid question that misses the cache is always
answered.  The page accounts for what each of the asked searchers came to.  And when the searches of one of them end
in a failure instead, the page accounts for that, what this searcher found is missing from what is found together, and
everything else is there in the same order, also when it is sorted. -/
theorem search_accounted (a : Aggregator σ) {available : List (Searcher σ)}
    (hids : (available.map Searcher.id).Nodup) (hown : ∀ x ∈ available, x.RepliesAsItself) {f : SearchForm}
    (hf : f.IsValid a.maxLimit) {s : σ}
    (hmiss : ∀ p, a.plan available f = .ok p → ((a.retrieve p).run s).1 = none) :
    ∃ p outcomes, a.plan available f = .ok p ∧ p.searchers = f.asked available ∧
      ((outcomesOf p.searchers a.deadline p.query).run ((a.retrieve p).run s).2).1 = outcomes ∧
      ((a.search available f).run s).1 = .ok (Aggregator.page p (.ofOutcomes outcomes) false) ∧
      (Aggregator.page p (.ofOutcomes outcomes) false).AccountsFor f available outcomes ∧
      ∀ x ∈ f.asked available, ∀ reply, x.FailsWith reply → ∃ before o failed after,
        outcomes = before ++ o :: after ∧ o.indexerId = x.id ∧
        failed.indexerId = x.id ∧ failed.failure.isSome ∧ failed.releases = [] ∧
        ((a.search (replaced available x.id reply) f).run s).1 =
          .ok (Aggregator.page p (.ofOutcomes (before ++ failed :: after)) false) ∧
        (Aggregator.page p (.ofOutcomes (before ++ failed :: after)) false).AccountsFor f
          (replaced available x.id reply) (before ++ failed :: after) ∧
        (Merged.ofOutcomes outcomes).releases =
          before.flatMap Outcome.releases ++ o.releases ++ after.flatMap Outcome.releases ∧
        (Merged.ofOutcomes (before ++ failed :: after)).releases =
          before.flatMap Outcome.releases ++ after.flatMap Outcome.releases ∧
        ((Merged.ofOutcomes (before ++ failed :: after)).wanted p.inquiry).Sublist
          ((Merged.ofOutcomes outcomes).wanted p.inquiry) := by
  obtain ⟨q, forwarded, hcategories, hplans⟩ := a.exists_plan hf
  have hasked : ∀ x ∈ f.asked available, x.RepliesAsItself := fun x hx => hown x (List.mem_filter.mp hx).1
  have haskedIds : ((f.asked available).map Searcher.id).Nodup :=
    hids.sublist ((List.filter_sublist (l := available)).map Searcher.id)
  have hnone := hmiss _ (hplans available)
  refine ⟨f.planned q forwarded available, _, hplans available, rfl, rfl,
    Aggregator.search_run_of_miss (hplans available) hnone,
    page_accountsFor hids hcategories rfl (outcomesOf_indexerIds hasked _ _ _) false, ?_⟩
  intro x hx reply hreply
  obtain ⟨before, o, failed, after, houtcomes, hreplaced, hid, hfailedId, hfailure, hreleases⟩ :=
    outcomesOf_replaced haskedIds hasked hx hreply a.deadline (f.planned q forwarded available).query
      ((a.retrieve (f.planned q forwarded available)).run s).2
  have hwithout := releases_without before after o hreleases
  -- the plan for the other catalog has the same key, so that it misses the cache in the same way
  have hsearch := Aggregator.search_run_of_miss (a := a) (hplans (replaced available x.id reply)) (s := s)
  rw [f.planned_replaced] at hsearch
  have hpage := hsearch hnone
  change _ = Except.ok (Aggregator.page (f.planned q forwarded available) (.ofOutcomes
    ((outcomesOf (replaced (f.asked available) x.id reply) a.deadline
      (f.planned q forwarded available).query).run ((a.retrieve (f.planned q forwarded available)).run s).2).1) false)
    at hpage
  rw [hreplaced] at hpage
  have hidsReplaced : (before ++ failed :: after).map Outcome.indexerId =
      (f.asked (replaced available x.id reply)).map Searcher.id := by
    rw [f.asked_replaced, map_id_replaced, ← outcomesOf_indexerIds hasked a.deadline
      (f.planned q forwarded available).query ((a.retrieve (f.planned q forwarded available)).run s).2]
    rw [houtcomes]
    simp [hid, hfailedId]
  refine ⟨before, o, failed, after, houtcomes, hid, hfailedId, hfailure, hreleases, hpage,
    page_accountsFor (by rwa [map_id_replaced]) hcategories (by rw [f.unknown_replaced]; rfl) hidsReplaced false,
    ?_, hwithout.2, ?_⟩
  · rw [← hwithout.1, ← houtcomes]
    rfl
  · have hsub : (Merged.ofOutcomes (before ++ failed :: after)).releases.Sublist
        (Merged.ofOutcomes (before ++ o :: after)).releases := by
      rw [hwithout.1, hwithout.2]
      exact (List.sublist_append_left _ _).append_right _
    rw [← houtcomes] at hsub
    exact Release.sorted_sublist _ _ (hsub.filter _)

/-! ## A catalog of three -/

/-- A searcher that always replies the same. -/
def Searcher.scripted (id name : String) (reply : Reply) : Searcher Unit where
  id
  name
  ask _ := pure reply

/-- A searcher that always replies with an outcome of its own, or with none, replies as itself. -/
theorem Searcher.scripted_repliesAsItself {id name : String} {reply : Reply}
    (h : ∀ o, reply = .outcome o → o.indexerId = id) : (scripted id name reply).RepliesAsItself :=
  fun _ _ o hreply => h o hreply

/-- What one of them finds. -/
def foundRelease : Release where
  title := "Dune"
  downloadUrl := "magnet:?xt=urn:btih:0"
  guid := "1"
  indexerId := "alpha"
  indexerName := "Alpha"

/-- One indexer finds a release, one breaks off, and one never replies. -/
def threeSearchers : List (Searcher Unit) :=
  [.scripted "alpha" "Alpha" (.outcome { indexerId := "alpha", indexerName := "Alpha", releases := [foundRelease] }),
   .scripted "beta" "Beta" (.crashed "kaboom"), .scripted "gamma" "Gamma" .late]

/-- A question that names one of them, and twice one that is not there. -/
def threeForm : SearchForm where
  text := " dune "
  indexerIds := ["gamma", "ghost", "alpha", "ghost"]

/-- A question to two of three indexers is answered, with a summary for each of them and an error for the one that never
replies, behind the error for the one that is not there.  If the other one breaks as well, it has a summary and an error
too, and nothing is found. -/
theorem search_accounted_three : ∃ page broken,
    ((Aggregator.search {} threeSearchers threeForm).run ()).1 = .ok page ∧
    page.summaries.map Summary.indexerId = ["alpha", "gamma"] ∧ page.total = 1 ∧
    page.errors.map SearchError.indexerId = ["ghost", "gamma"] ∧
    ((Aggregator.search {} (replaced threeSearchers "alpha" (.crashed "kaboom")) threeForm).run ()).1 = .ok broken ∧
    broken.summaries.map Summary.indexerId = ["alpha", "gamma"] ∧ broken.total = 0 ∧
    broken.errors.map SearchError.indexerId = ["ghost", "alpha", "gamma"] := by
  have hids : (threeSearchers.map Searcher.id).Nodup := by decide
  have hown : ∀ x ∈ threeSearchers, x.RepliesAsItself := by
    simp only [threeSearchers, List.mem_cons, List.not_mem_nil, or_false, forall_eq_or_imp, forall_eq]
    refine ⟨Searcher.scripted_repliesAsItself ?_, Searcher.scripted_repliesAsItself nofun,
      Searcher.scripted_repliesAsItself nofun⟩
    rintro o ⟨⟩
    rfl
  have hvalid : threeForm.IsValid ({} : Aggregator Unit).maxLimit :=
    ⟨by decide, by decide, by decide, by decide, by decide⟩
  obtain ⟨p, outcomes, hplan, hsearchers, houtcomes, hpage, haccounts, hreplaced⟩ :=
    search_accounted {} hids hown hvalid (s := ()) (by
      intro p _
      simp only [Aggregator.retrieve, Aggregator.activeCache]
      split <;> rfl)
  have htime : (({} : Aggregator Unit).deadline.isZero || ({} : Aggregator Unit).deadline.lt .zero) = false := by
    decide +kernel
  have hasked : threeForm.asked threeSearchers = [.scripted "alpha" "Alpha" (.outcome
      { indexerId := "alpha", indexerName := "Alpha", releases := [foundRelease] }), .scripted "gamma" "Gamma" .late] :=
    rfl
  have hfound : outcomes = [{ indexerId := "alpha", indexerName := "Alpha", releases := [foundRelease] },
      (Searcher.scripted "gamma" "Gamma" .late).settle ({} : Aggregator Unit).deadline .late] := by
    rw [← houtcomes, hsearchers, hasked]
    simp only [outcomesOf_cons, Searcher.search_run, htime]
    rfl
  obtain ⟨before, o, failed, after, hsplit, hid, hfailedId, hfailure, hreleases, hbroken, hbrokenAccounts, -⟩ :=
    hreplaced _ (by rw [hasked]; exact List.mem_cons_self) (.crashed "kaboom") trivial
  obtain ⟨failure, hfailure⟩ := Option.isSome_iff_exists.mp hfailure
  -- the first indexer is the one that was replaced
  obtain ⟨rfl, hafter⟩ : before = [] ∧
      after = [(Searcher.scripted "gamma" "Gamma" .late).settle ({} : Aggregator Unit).deadline .late] := by
    rw [hfound] at hsplit
    cases before with
    | nil => exact ⟨rfl, (List.cons.inj hsplit).2.symm⟩
    | cons first rest =>
        have hlast := (List.cons.inj hsplit).2
        cases rest with
        | nil =>
            rw [← (List.cons.inj hlast).1] at hid
            exact absurd hid (by decide)
        | cons second rest => simp at hlast
  refine ⟨_, _, hpage, haccounts.summaries, ?_, ?_, hbroken, hbrokenAccounts.summaries, ?_, ?_⟩
  · rw [haccounts.total rfl, hfound]
    rfl
  · rw [haccounts.errors, hfound]
    rfl
  · rw [hbrokenAccounts.total rfl, hafter]
    simp [Merged.ofOutcomes, hreleases, Searcher.settle]
  · have herror : failed.error? = some { indexerId := "alpha", indexerName := failed.indexerName
                                         kind := failure.kind, message := failure.message } := by
      rw [Outcome.error?, hfailure, hfailedId]
      rfl
    rw [hbrokenAccounts.errors, hafter, List.nil_append, List.filterMap_cons_some herror]
    rfl

end MetaSearch
