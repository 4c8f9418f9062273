import MetaSearch.Proofs.Search.Asked
import MetaSearch.Proofs.Sequence.Distinct
import Mathlib.Data.List.Basic

/-!
# The trail of a visit

What a visit of a site leaves behind: one trial for each link that it came to, in the order of the links, each with
what the network was asked in it and how it ended.  `Tried` says what a single trial can be, `Trail` what trials a walk
can leave, and `Notes.walk` that the walk leaves such a trail on every network.

The main result is `visit_trail`.  It ties what a search comes to, and everything that is asked on the way, to the
last trial.
-/

namespace MetaSearch

variable {σ α : Type}

/-- One link that was tried: what was asked, and how it ended. -/
structure Trial (α : Type) where
  link : String
  asked : List Asked
  ended : Except Trouble α

/-! ## A single trial -/

/-- What can come of trying a link. -/
inductive Tried (net : Network σ) (now : Moment) (d : Definition) (search : PreparedSearch) (timeout : Option Datum) :
    Trial (List Row) → Prop
  /-- There is no request to be made. -/
  | unasked (link : String) (f : Fault) (hrequest : search.request link timeout = .error f) :
      Tried net now d search timeout ⟨link, [], .error (.fault f)⟩
  /-- No body is reached. -/
  | lost (link : String) (request : Request) (asked : List Asked) (e : Trouble)
      (hrequest : search.request link timeout = .ok request) (hreached : Reached net request asked (.error e)) :
      Tried net now d search timeout ⟨link, asked, .error e⟩
  /-- The body that is reached is read, with the link for its base. -/
  | read (link : String) (request : Request) (asked : List Asked) (body : String)
      (hrequest : search.request link timeout = .ok request) (hreached : Reached net request asked (.ok body)) :
      Tried net now d search timeout ⟨link, asked, Answer.rows now d search link body⟩

namespace Tried

variable {net : Network σ} {now : Moment} {d : Definition} {search : PreparedSearch} {timeout : Option Datum}
  {t : Trial (List Row)}

/-- What a link is asked is its request, once. -/
theorem fetched (h : Tried net now d search timeout t) :
    t.asked.filterMap Asked.fetched? = (search.request t.link timeout).toOption.toList := by
  cases h with
  | unasked link f hrequest => simp [hrequest, Except.toOption]
  | lost link request asked e hrequest hreached => simp [hrequest, hreached.fetched, Except.toOption]
  | read link request asked body hrequest hreached => simp [hrequest, hreached.fetched, Except.toOption]

/-- The solver is asked once where there is one and the link replies with a puzzle, and else it is not asked. -/
theorem countP_isSolve (h : Tried net now d search timeout t) :
    t.asked.countP Asked.isSolve = if net.solve.isSome ∧ t.asked.any Asked.isPuzzle then 1 else 0 := by
  cases h with
  | unasked link f hrequest => simp
  | lost link request asked e hrequest hreached => exact hreached.countP_isSolve
  | read link request asked body hrequest hreached => exact hreached.countP_isSolve

end Tried

/-- What is asked for the rows under a link, and what comes of it. -/
theorem Notes.attempt (net : Network σ) (now : Moment) (d : Definition) (search : PreparedSearch)
    (timeout : Option Datum) (link : String) :
    Notes (Visit.attempt net.recorded now d search timeout link) (Visit.attempt net now d search timeout link)
      fun asked ended => Tried net now d search timeout ⟨link, asked, ended⟩ := by
  cases hrequest : search.request link timeout with
  | error f =>
      simp only [Visit.attempt, hrequest]
      exact Notes.settle (.unasked link f hrequest)
  | ok request =>
      simp only [Visit.attempt, hrequest]
      refine (Notes.body net request).bind (Q := fun body asked ended => asked = [] ∧
        ended = Answer.rows now d search link body) ?_ ?_ ?_
      · intro body
        exact Notes.settle ⟨rfl, rfl⟩
      · intro asked e hreached
        exact .lost link request asked e hrequest hreached
      · rintro first body second ended hreached ⟨rfl, rfl⟩
        rw [List.append_nil]
        exact .read link request first body hrequest hreached

/-! ## A walk -/

/-- The trials that a walk along links can leave, and how it can end; `last` is the setback before. -/
inductive Trail (T : Trial α → Prop) : Option Setback → List String → List (Trial α) → Walked α → Prop
  | exhausted (last : Option Setback) : Trail T last [] [] (.exhausted last)
  | arrived (last : Option Setback) (links : List String) (t : Trial α) (a : α) (htried : T t)
      (hended : t.ended = .ok a) : Trail T last (t.link :: links) [t] (.arrived a)
  | faulted (last : Option Setback) (links : List String) (t : Trial α) (f : Fault) (htried : T t)
      (hended : t.ended = .error (.fault f)) : Trail T last (t.link :: links) [t] (.faulted f)
  | further (last : Option Setback) (links : List String) (t : Trial α) (b : Setback) (htried : T t)
      (hended : t.ended = .error (.setback b)) (trials : List (Trial α)) (walked : Walked α)
      (hrest : Trail T (some b) links trials walked) : Trail T last (t.link :: links) (t :: trials) walked

/-- **A walk leaves a trail.**  Walking on the recorded network comes to the same as walking on the network itself, and
what is written down is what was asked in the trials of some trail. -/
theorem Notes.walk {recorded : String → Visit (σ × List Asked) α} {attempt : String → Visit σ α} {T : Trial α → Prop}
    (h : ∀ link, Notes (recorded link) (attempt link) fun asked ended => T ⟨link, asked, ended⟩)
    (links : List String) (last : Option Setback) (s : σ) (asked : List Asked) :
    ∃ trials, Visit.walk recorded last links (s, asked) =
        ((Visit.walk attempt last links s).1, (Visit.walk attempt last links s).2,
          asked ++ trials.flatMap Trial.asked) ∧
      Trail T last links trials (Visit.walk attempt last links s).1 := by
  induction links generalizing last s asked with
  | nil => exact ⟨[], by rw [List.flatMap_nil, List.append_nil]; rfl, .exhausted last⟩
  | cons link links ih =>
      obtain ⟨more, hrun, htried⟩ := h link s asked
      rw [Visit.walk_cons, Visit.walk_cons]
      simp only [ExceptT.run] at hrun htried
      rw [hrun]
      rcases hreply : attempt link s with ⟨⟨b | f⟩ | a, t⟩ <;> rw [hreply] at htried
      · obtain ⟨trials, hwalk, hrest⟩ := ih (some b) t (asked ++ more)
        refine ⟨⟨link, more, .error (.setback b)⟩ :: trials, ?_, .further last links _ b htried rfl _ _ hrest⟩
        simpa using hwalk
      · exact ⟨[⟨link, more, .error (.fault f)⟩], by simp, .faulted last links _ f htried rfl⟩
      · exact ⟨[⟨link, more, .ok a⟩], by simp, .arrived last links _ a htried rfl⟩

namespace Trail

variable {T : Trial α → Prop} {last : Option Setback} {links : List String} {trials : List (Trial α)}
  {walked : Walked α}

/-- Links are tried in their order, from the first one on. -/
theorem inOrder (h : Trail T last links trials walked) : trials.map Trial.link <+: links := by
  induction h with
  | exhausted last => exact List.prefix_refl []
  | arrived last links t a htried hended => exact ⟨links, rfl⟩
  | faulted last links t f htried hended => exact ⟨links, rfl⟩
  | further last links t b htried hended trials walked hrest ih => exact (List.prefix_cons_inj t.link).mpr ih

/-- Every trial is a possible one. -/
theorem tried (h : Trail T last links trials walked) : ∀ t ∈ trials, T t := by
  induction h with
  | exhausted last => simp
  | arrived last links t a htried hended => simpa using htried
  | faulted last links t f htried hended => simpa using htried
  | further last links t b htried hended trials walked hrest ih => simpa using ⟨htried, ih⟩

/-- Every trial before the last one ended with a setback. -/
theorem setbacks (h : Trail T last links trials walked) :
    ∀ t ∈ trials.dropLast, ∃ b, t.ended = .error (.setback b) := by
  induction h with
  | exhausted last => simp
  | arrived last links t a htried hended => simp
  | faulted last links t f htried hended => simp
  | further last links t b htried hended trials walked hrest ih =>
      cases trials with
      | nil => simp
      | cons t' trials =>
          rw [List.dropLast_cons_cons]
          rintro u (- | ⟨-, hu⟩)
          · exact ⟨b, hended⟩
          · exact ih u hu

/-- How a walk ends is how its last trial ended; only a setback leads on to the next link. -/
theorem ended (h : Trail T last links trials walked) :
    match trials.getLast? with
    | none => links = [] ∧ walked = .exhausted last
    | some t =>
      match t.ended with
      | .ok a => walked = .arrived a
      | .error (.fault f) => walked = .faulted f
      | .error (.setback b) => trials.map Trial.link = links ∧ walked = .exhausted (some b) := by
  induction h with
  | exhausted last => exact ⟨rfl, rfl⟩
  | arrived last links t a htried hended => simp [hended]
  | faulted last links t f htried hended => simp [hended]
  | further last links t b htried hended trials walked hrest ih =>
      cases trials with
      | nil =>
          obtain ⟨rfl, rfl⟩ := ih
          simp [hended]
      | cons t' trials =>
          rw [List.getLast?_cons_cons]
          cases hlast : (t' :: trials).getLast? with
          | none => exact absurd (List.getLast?_eq_none_iff.mp hlast) (List.cons_ne_nil t' trials)
          | some u =>
              rw [hlast] at ih
              rcases hu : u.ended with ⟨b' | f⟩ | a
              · simpa [hu] using ih
              · simpa [hu] using ih
              · simpa [hu] using ih

end Trail

/-! ## A visit -/

/-- No link of a site counts twice. -/
theorem Definition.nodup_allLinks (d : Definition) : d.allLinks.Nodup :=
  nodup_eraseDups _

/-- A search came to some releases. -/
def Outcome.Found (o : Outcome) (releases : List Release) : Prop :=
  o.releases = releases ∧ o.failure = none

/-- A search came to nothing. -/
def Outcome.Failed (o : Outcome) (f : Failure) : Prop :=
  o.releases = [] ∧ o.failure = some f

/-- What a visit asks: links are tried in their order, each once, until one meets no setback.  A link is asked for its
request, and the solver is asked for the puzzles that links reply with. -/
structure LinkTrials (net : Network σ) (now : Moment) (d : Definition) (search : PreparedSearch)
    (timeout : Option Datum) (trials : List (Trial (List Row))) (asked : List Asked) : Prop where
  asked_eq : asked = trials.flatMap Trial.asked
  inOrder : trials.map Trial.link <+: d.allLinks
  nodup : (trials.map Trial.link).Nodup
  fetched : asked.filterMap Asked.fetched? = trials.filterMap fun t => (search.request t.link timeout).toOption
  tried : ∀ t ∈ trials, Tried net now d search timeout t
  solver : ∀ t ∈ trials,
    t.asked.countP Asked.isSolve = if net.solve.isSome ∧ t.asked.any Asked.isPuzzle then 1 else 0
  setbacks : ∀ t ∈ trials.dropLast, ∃ b, t.ended = .error (.setback b)

/-- The trail of a walk along the links of a site, as what a visit asks. -/
theorem Trail.linkTrials {net : Network σ} {now : Moment} {d : Definition} {search : PreparedSearch}
    {timeout : Option Datum} {last : Option Setback} {trials : List (Trial (List Row))} {walked : Walked (List Row)}
    (h : Trail (Tried net now d search timeout) last d.allLinks trials walked) :
    LinkTrials net now d search timeout trials (trials.flatMap Trial.asked) where
  asked_eq := rfl
  inOrder := h.inOrder
  nodup := d.nodup_allLinks.sublist h.inOrder.sublist
  fetched := by
    have htried := h.tried
    clear h
    induction trials with
    | nil => rfl
    | cons t trials ih =>
        have hfetched := (htried t List.mem_cons_self).fetched
        rw [List.flatMap_cons, List.filterMap_append, hfetched, ih fun u hu => htried u (List.mem_cons_of_mem t hu)]
        cases hrequest : search.request t.link timeout <;> simp [hrequest, Except.toOption]
  tried := h.tried
  solver t ht := (h.tried t ht).countP_isSolve
  setbacks := h.setbacks

/-- **The trail of a visit.**  A visit of the recorded network comes to the same as a visit of the network itself.  When
the search cannot be prepared, nothing is asked and the failure is internal.  Else links are tried as `LinkTrials` says,
and the last trial decides: its rows are what is found, unless one of them breaks the search; a fault breaks it too;
and a setback there means that all links were tried, and is what is reported. -/
theorem visit_trail (d : Definition) (net : Network σ) (now : Moment) (query : Query)
    (settings : List (String × Datum)) (timeout : Option Datum) (profile : SiteProfile) (s : σ) :
    ∃ outcome s' asked,
      (d.visit net now query settings timeout profile).run s = (outcome, s') ∧
      (d.visit net.recorded now query settings timeout profile).run (s, []) = (outcome, s', asked) ∧
      (∀ f, prepare now d query settings = .error f → asked = [] ∧ outcome.Failed { kind := .internal }) ∧
      ∀ search, prepare now d query settings = .ok search →
        ∃ trials, LinkTrials net now d search timeout trials asked ∧
          match trials.getLast? with
          | none => d.allLinks = [] ∧ outcome.Failed { kind := .exhausted, message := "no links to try" }
          | some t =>
            match t.ended with
            | .ok rows =>
              match releasesOf rows profile now with
              | .ok releases => outcome.Found releases
              | .error _ => outcome.Failed { kind := .internal }
            | .error (.fault _) => outcome.Failed { kind := .internal }
            | .error (.setback b) =>
              trials.map Trial.link = d.allLinks ∧
                outcome.Failed { kind := .ofLast (some b), message := b.message, attempts := d.allLinks.length } := by
  cases hprepare : prepare now d query settings with
  | error f =>
      simp only [Definition.visit, hprepare]
      exact ⟨_, s, [], rfl, rfl, fun _ _ => ⟨rfl, rfl, rfl⟩, nofun⟩
  | ok search =>
      obtain ⟨trials, hwalk, htrail⟩ :=
        Notes.walk (Notes.attempt net now d search timeout) d.allLinks none s []
      rcases hwalked : Visit.walk (Visit.attempt net now d search timeout) none d.allLinks s with ⟨walked, s'⟩
      rw [hwalked] at hwalk htrail
      refine ⟨d.outcome profile now walked, s', trials.flatMap Trial.asked, ?_, ?_, nofun, ?_⟩
      · simp only [Definition.visit, hprepare, bind, StateT.bind, StateT.run, hwalked]
        rfl
      · simp only [Definition.visit, hprepare, bind, StateT.bind, StateT.run, hwalk]
        rfl
      · rintro _ ⟨⟩
        refine ⟨trials, htrail.linkTrials, ?_⟩
        have hended := htrail.ended
        cases hlast : trials.getLast? with
        | none =>
            rw [hlast] at hended
            obtain ⟨hnone, rfl⟩ := hended
            exact ⟨hnone, rfl, by simp [Definition.outcome, hnone, FailureKind.ofLast]⟩
        | some t =>
            rw [hlast] at hended
            rcases ht : t.ended with ⟨b | f⟩ | rows <;> simp only [ht] at hended ⊢
            · obtain ⟨hlinks, rfl⟩ := hended
              exact ⟨hlinks, rfl, rfl⟩
            · subst hended
              exact ⟨rfl, rfl⟩
            · subst hended
              cases hreleases : releasesOf rows profile now with
              | ok releases => simp [Outcome.Found, Definition.outcome, hreleases]
              | error f => simp [Outcome.Failed, Definition.outcome, hreleases]

end MetaSearch
