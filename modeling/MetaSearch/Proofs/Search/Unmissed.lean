import MetaSearch.Proofs.Search.Asked
import MetaSearch.Proofs.Site.Accepted
import MetaSearch.Search.Network

/-!
# Fields that are missed

A field that must be there and is not found is missed, and a search that ended so would be reported as if nothing had
been tried.  It never comes to that: a row takes note of what it misses and goes on (`Extract.unmissed_readField`),
nothing else that is done with a body misses anything (`Answer.unmissed_rows`), and so no attempt does
(`Visit.NeverMisses.attempt`).

Where there are links, the walk along them then ends with a setback of another kind, if with any (`Visit.walk_tells`).
`Definition.runs_of_ofDatum` is what comes of it for definitions that are accepted.
-/

namespace MetaSearch

variable {σ α β : Type}

/-- Something did not come to nothing for want of a field. -/
def Unmissed (x : Except Trouble α) : Prop :=
  ∀ message, x ≠ .error (.setback (.missed message))

namespace Unmissed

theorem ok (a : α) : Unmissed (.ok a : Except Trouble α) := nofun

theorem orTrouble (x : Except Fault α) : Unmissed (orTrouble x) := by
  cases x <;> exact nofun

theorem map {x : Except Trouble α} (h : Unmissed x) (f : α → β) : Unmissed (x.map f) := by
  intro message
  cases x with
  | error e => exact fun heq => h message (congrArg Except.error (Except.error.inj heq))
  | ok a => exact nofun

/-- Of two steps in a row nothing is missed where neither misses anything. -/
theorem bind {x : Except Trouble α} {next : α → Except Trouble β} (h : Unmissed x) (h' : ∀ a, Unmissed (next a)) :
    Unmissed (x >>= next) := by
  intro message
  cases x with
  | error e => exact fun heq => h message (congrArg Except.error (Except.error.inj heq))
  | ok a => exact h' a message

end Unmissed

/-! ## Rows -/

namespace Extract

/-- **A row notes what it misses.**  Whatever a field is read with, the row goes on without it. -/
theorem unmissed_readField (extract : FieldRule → Environment → Except Trouble Datum) (rule : FieldRule) (row : Row)
    (env : Environment) : Unmissed (readField extract rule row env) := by
  intro message heq
  simp only [readField] at heq
  split at heq
  · cases heq
  · rename_i e hmissed _
    exact hmissed message (Except.error.inj heq)
  · repeat' split at heq
    all_goals cases heq

theorem unmissed_readFields (extract : FieldRule → Environment → Except Trouble Datum) (rules : List FieldRule)
    (row : Row) (env : Environment) : Unmissed (readFields extract rules row env) := by
  induction rules generalizing row env with
  | nil => exact .ok (row, env)
  | cons rule rules ih => exact (unmissed_readField extract rule row env).bind fun read => ih read.1 read.2

theorem unmissed_readRow (extract : FieldRule → Environment → Except Trouble Datum) (rules : List FieldRule)
    (env : Environment) : Unmissed (readRow extract rules env) :=
  (unmissed_readFields extract rules [] env).map _

theorem unmissed_document (body : String) : Unmissed (document body) := by
  unfold document
  split <;> exact nofun

theorem unmissed_documentRows (d : Datum) (rule : RowRule) (env : Environment) : Unmissed (documentRows d rule env) := by
  unfold documentRows
  simp only
  split
  · split <;> exact nofun
  · apply (Unmissed.orTrouble _).bind
    intro found
    split <;> exact nofun

theorem unmissed_pageRows (page : Markup.Page) (rule : RowRule) (env : Environment) :
    Unmissed (pageRows page rule env) := by
  unfold pageRows
  simp only
  split
  · exact nofun
  · split
    · exact nofun
    · split <;> exact nofun

end Extract

theorem Feed.unmissed_rows (body : String) : Unmissed (Feed.rows body) := by
  have hroot : Unmissed (Feed.root body) := by
    unfold Feed.root
    simp only
    split
    · exact nofun
    · split
      · exact nofun
      · split <;> exact nofun
  apply hroot.bind
  intro root
  split
  · exact nofun
  · exact .orTrouble _

namespace Answer

theorem unmissed_rowsOf (now : Moment) (d : Definition) (search : PreparedSearch) (link body : String)
    (shape : AnswerShape) : Unmissed (rowsOf now d search link body shape) := by
  have hdocument := Extract.unmissed_document body
  cases shape with
  | rss => exact Feed.unmissed_rows body
  | xml => exact Feed.unmissed_rows body
  | torznab => exact Feed.unmissed_rows body
  | apibay => exact hdocument.bind fun _ => .ok _
  | eztv => exact hdocument.bind fun _ => .ok _
  | yts => exact hdocument.bind fun _ => .ok _
  | json => exact hdocument.bind fun _ => (Extract.unmissed_documentRows _ _ _).bind fun _ => .ok _
  | html => exact (Extract.unmissed_pageRows _ _ _).bind fun _ => .ok _

/-- **Whatever an answer holds, no field of it is missed.** -/
theorem unmissed_rows (now : Moment) (d : Definition) (search : PreparedSearch) (link body : String) :
    Unmissed (rows now d search link body) := by
  apply (unmissed_rowsOf now d search link (filtered now d body) _).bind
  intro rows
  split <;> exact .ok _

end Answer

/-! ## Visits -/

/-- An action never comes to nothing for want of a field. -/
def Visit.NeverMisses (act : Visit σ α) : Prop :=
  ∀ s, Unmissed (act.run s).1

/-- What sites reply does not hold fields yet, nor does what a solver replies. -/
structure Network.NeverMisses (net : Network σ) : Prop where
  fetch : ∀ request, (net.fetch request).NeverMisses
  solve : ∀ solve, net.solve = some solve → ∀ request, (solve request).NeverMisses

namespace Visit.NeverMisses

theorem settle {x : Except Trouble α} (h : Unmissed x) : (Visit.settle x : Visit σ α).NeverMisses := fun _ => h

theorem lift (act : StateM σ α) : Visit.NeverMisses (ExceptT.lift act) := by
  intro s message
  have hok : ((ExceptT.lift act : Visit σ α).run s).1 = .ok (act.run s).1 := rfl
  rw [hok]
  exact nofun

theorem bind {act : Visit σ α} {next : α → Visit σ β} (h : act.NeverMisses) (h' : ∀ a, (next a).NeverMisses) :
    (act >>= next).NeverMisses := by
  intro s message
  have hfirst := h s message
  rw [exceptT_run_bind]
  rcases hact : act.run s with ⟨e | a, t⟩
  · rw [hact] at hfirst
    exact fun heq => hfirst (congrArg Except.error (Except.error.inj heq))
  · exact h' a t message

theorem pass {net : Network σ} (h : net.NeverMisses) (request : Request) : (Visit.pass net request).NeverMisses := by
  unfold Visit.pass
  split
  · exact settle nofun
  · rename_i solve hsolve
    apply (h.solve solve hsolve request).bind
    intro solution
    split
    · exact settle nofun
    · split
      · exact settle nofun
      · split <;> exact settle nofun

theorem body {net : Network σ} (h : net.NeverMisses) (request : Request) : (Visit.body net request).NeverMisses := by
  apply (h.fetch request).bind
  intro response
  split
  · exact pass h request
  · split <;> exact settle nofun

/-- No attempt comes to nothing for want of a field. -/
theorem attempt {net : Network σ} (h : net.NeverMisses) (now : Moment) (d : Definition) (search : PreparedSearch)
    (timeout : Option Datum) (link : String) : (Visit.attempt net now d search timeout link).NeverMisses := by
  apply (settle (.orTrouble _)).bind
  intro request
  apply (body h request).bind
  intro body
  exact settle (Answer.unmissed_rows now d search link body)

end Visit.NeverMisses

/-- What a client replies is missed by none: a site is reached or is not, and a solver has a page or breaks off. -/
theorem Client.network_neverMisses (client : Client σ) (solver : Option Solver) :
    (client.network solver).NeverMisses where
  fetch request := by
    apply (Visit.NeverMisses.lift _).bind
    intro answer
    cases answer with
    | ok page => exact fun _ => nofun
    | error breakdown =>
        intro s message
        cases breakdown <;> exact nofun
  solve solve hsolve request := by
    obtain ⟨solver, -, rfl⟩ := Option.map_eq_some_iff.mp hsolve
    apply (Visit.NeverMisses.lift _).bind
    intro answer
    split
    · exact fun _ => nofun
    · exact fun _ => nofun
    · split <;> exact fun _ => nofun

/-- A setback tells of something that was tried. -/
def Telling (last : Option Setback) : Prop :=
  FailureKind.ofLast last ≠ .exhausted

/-- **A walk that comes to nothing tells of something that was tried.**  It does so from the first link on. -/
theorem Visit.walk_tells {attempt : String → Visit σ α} (h : ∀ link, (attempt link).NeverMisses) {links : List String}
    {last : Option Setback} (hlast : links ≠ [] ∨ Telling last) {s s' : σ} {left : Option Setback}
    (hwalk : (Visit.walk attempt last links).run s = (.exhausted left, s')) : Telling left := by
  induction links generalizing last s with
  | nil =>
      obtain ⟨heq, -⟩ := Prod.mk.inj hwalk
      obtain rfl := Walked.exhausted.inj heq
      exact hlast.resolve_left (fun hne => hne rfl)
  | cons link links ih =>
      have hlink := h link s
      rw [StateT.run, Visit.walk_cons] at hwalk
      rw [ExceptT.run] at hlink
      rcases hattempt : attempt link s with ⟨⟨b | f⟩ | a, t⟩
      · rw [hattempt] at hwalk hlink
        -- a setback that is left at a link is none for want of a field, and so it tells of something
        have hb : Telling (some b) := by
          cases b with
          | missed message => exact absurd rfl (hlink message)
          | challenged message => exact nofun
          | unreachable message => exact nofun
          | unreadable message => exact nofun
        exact ih (.inr hb) hwalk
      · rw [hattempt] at hwalk
        cases hwalk
      · rw [hattempt] at hwalk
        cases hwalk

namespace Definition

/-- A search of a site that has links is never reported as if there had been nothing to try. -/
theorem kind_ne_exhausted {d : Definition} (hlinks : d.allLinks ≠ []) {net : Network σ} (h : net.NeverMisses)
    (now : Moment) (query : Query) (settings : List (String × Datum)) (timeout : Option Datum) (profile : SiteProfile)
    (s : σ) {f : Failure} (hf : ((d.visit net now query settings timeout profile).run s).1.failure = some f) :
    f.kind ≠ .exhausted := by
  rw [visit] at hf
  cases hprepare : prepare now d query settings with
  | error fault =>
      simp only [hprepare] at hf
      obtain rfl := Option.some.inj hf
      exact nofun
  | ok search =>
      rcases hwalk : (Visit.walk (Visit.attempt net now d search timeout) none d.allLinks).run s with ⟨walked, s'⟩
      have hrun : ((d.outcome profile now) walked).failure = some f := by
        simp only [hprepare] at hf
        rw [StateT.run_bind, hwalk] at hf
        exact hf
      cases walked with
      | arrived rows =>
          cases hreleases : releasesOf rows profile now with
          | error fault =>
              simp only [outcome, hreleases] at hrun
              obtain rfl := Option.some.inj hrun
              exact nofun
          | ok releases =>
              simp only [outcome, hreleases] at hrun
              cases hrun
      | exhausted last =>
          have htelling : Telling last := by
            apply Visit.walk_tells _ (.inl hlinks) hwalk
            exact .attempt h now d search timeout
          obtain rfl := Option.some.inj hrun
          exact htelling
      | faulted fault =>
          obtain rfl := Option.some.inj hrun
          exact nofun

/-- **An accepted definition runs.**  It has all that a search of its site relies on.  Whatever categories are asked for,
the path that is chosen is one of its own.  Whatever its fields are read from, and whatever answers its links give,
nothing is missed that stops the reading; so a walk along its links does not end without a setback to tell of, and no
search of its site is reported as if there had been nothing to try, on any network that misses no fields itself. -/
theorem runs_of_ofDatum {doc : Datum} {d : Definition} (h : ofDatum doc = .ok d) :
    d.Runnable ∧
    (∀ siteCategories, d.choosePath siteCategories ∈ d.search.paths) ∧
    (∀ extract env, Unmissed (Extract.readRow extract d.search.fields env)) ∧
    (∀ now search link body, Unmissed (Answer.rows now d search link body)) ∧
    ∀ {σ : Type} (net : Network σ), net.NeverMisses → ∀ now query settings timeout profile s,
      (∀ search s',
        (Visit.walk (Visit.attempt net now d search timeout) none d.allLinks).run s ≠ (.exhausted none, s')) ∧
      ∀ f, ((d.visit net now query settings timeout profile).run s).1.failure = some f → f.kind ≠ .exhausted := by
  have hrunnable := runnable_of_ofDatum h
  refine ⟨hrunnable, choosePath_mem hrunnable.paths, fun extract env => ?_, fun now search link body => ?_,
    fun net hnet now query settings timeout profile s => ⟨fun search s' hwalk => ?_, fun f hf => ?_⟩⟩
  · exact Extract.unmissed_readRow extract d.search.fields env
  · exact Answer.unmissed_rows now d search link body
  · have htelling : Telling none := by
      apply Visit.walk_tells _ (.inl hrunnable.links) hwalk
      exact .attempt hnet now d search timeout
    exact htelling rfl
  · exact kind_ne_exhausted hrunnable.links hnet now query settings timeout profile s hf

end Definition

/-! ## A site that is down -/

namespace Downtime

/-- A document with little more than a definition needs, and some of it written short. -/
def document : Datum :=
  .object [("id", .text " site "), ("name", .text "Site"), ("links", .text "https://site.test/"),
    ("legacylinks", .list [.text "https://old.site.test/", .text " "]),
    ("search", .object [("path", .text "s"), ("rows", .text "tr"), ("fields", .object [("title", .text "td")])])]

/-- A network on which nothing is up. -/
def net : Network Unit where
  fetch _ := Visit.stop (.unreachable "down")

theorem net_neverMisses : net.NeverMisses where
  fetch _ := .settle nofun
  solve := nofun

/-- What a search of a site on that network comes to. -/
def failure? (d : Definition) : Option Failure :=
  ((d.visit net ⟨0, 0, calendarTicks_pos⟩ ⟨"dune", []⟩ [] none (d.profile none)).run ()).1.failure

/-- The document is accepted, and so the search of the site fails, after both links, but not as if there had been nothing
to try. -/
theorem runs_of_document : ∃ d f, Definition.ofDatum document = .ok d ∧ d.Runnable ∧ net.NeverMisses ∧
    failure? d = some f ∧ f.attempts = 2 ∧ f.kind ≠ .exhausted := by
  have hfails : (Definition.ofDatum document).toOption.map (fun d => (failure? d).map (·.attempts)) = some (some 2) := by
    decide +kernel
  obtain ⟨d, hd, hfailure⟩ := exists_of_map_toOption hfails
  obtain ⟨f, hf, hattempts⟩ := Option.map_eq_some_iff.mp hfailure
  obtain ⟨hrunnable, -, -, -, hvisits⟩ := Definition.runs_of_ofDatum hd
  refine ⟨d, f, hd, hrunnable, net_neverMisses, hf, hattempts, ?_⟩
  exact (hvisits net net_neverMisses _ _ _ _ _ ()).2 f hf

end Downtime

end MetaSearch
