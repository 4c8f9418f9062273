import MetaSearch.Proofs.Search.Traffic

/-!
# Kept outcomes are passed on faithfully

However many searches share a service and in whatever order their stages follow on one another: a page that is made
from kept outcomes shows what the indexers of some search under the same key found, not longer ago than outcomes last,
and a page that is not shows what the search's own indexers found.

The invariant is on the memory (`Sound.store`): every entry is what a finished search found and kept, under that
search's key and at the moment it was answered.  Reads, sweeps and evictions only take entries away, and writes add
entries of that sort, so no order of stages can break it.
-/

namespace MetaSearch

/-- A page shows what an inquiry wants of some outcomes: the releases of its categories in its order, cut to the page,
how many there are of them on all pages, all summaries, and the errors behind those for unknown indexers. -/
structure ResultPage.Shows (page : ResultPage) (q : Inquiry) (unknown : List SearchError) (m : Merged) : Prop where
  releases : page.releases =
    ((Release.sorted q.field q.descending (m.releases.filter (Release.isFiledUnder q.categoryIds))).drop
      q.offset).take q.limit
  total : page.total =
    (Release.sorted q.field q.descending (m.releases.filter (Release.isFiledUnder q.categoryIds))).length
  summaries : page.summaries = m.summaries
  errors : page.errors = unknown ++ m.errors

/-- The page of a plan shows what the plan wants. -/
theorem Aggregator.page_shows {τ : Type} (p : SearchPlan τ) (m : Merged) (cached : Bool) :
    (page p m cached).Shows p.inquiry p.unknown m :=
  ⟨rfl, rfl, rfl, rfl⟩

namespace Traffic

variable {σ : Type}

/-- In some events a search was planned so, against some catalog. -/
def Planned (config : Config) (past : List (TrafficEvent σ)) (i : Nat) (p : SearchPlan (Service σ)) : Prop :=
  ∃ clock available form, .start i available form ∈ past ∧
    (Service.aggregator config clock).plan available form = .ok p

/-- In some events the indexers of a planned search replied, and these outcomes are what they found together. -/
def Gathered (config : Config) (past : List (TrafficEvent σ)) (i : Nat) (p : SearchPlan (Service σ)) (m : Merged) :
    Prop :=
  ∃ replies, .gather i replies ∈ past ∧ replies.length = p.searchers.length ∧
    m = p.gathered config.search.deadline replies

/-- Some search was answered from its own indexers and kept what they found. -/
def Kept (t : Traffic σ) (key : String) (m : Merged) (time : Int) : Prop :=
  ∃ j a, t.stage j = .answered a ∧ a.own = some m ∧ a.plan.key = key ∧ a.time = time ∧ m.hasSuccess = true

/-- An answer shows kept outcomes that are not stale, or what the search's own indexers found. -/
structure FaithfulAnswer (config : Config) (past : List (TrafficEvent σ)) (t : Traffic σ) (i : Nat)
    (a : Answered (Service σ)) : Prop where
  planned : Planned config past i a.plan
  cached : a.page.cached = a.own.isNone
  kept : a.own = none → a.plan.inquiry.fresh = false ∧ 0 < config.cache.lifetime ∧
    ∃ m time, t.Kept a.plan.key m time ∧ time ≤ a.time ∧ a.time < time + config.cache.lifetime ∧
      a.page.Shows a.plan.inquiry a.plan.unknown m
  own : ∀ m, a.own = some m → Gathered config past i a.plan m ∧ a.page.Shows a.plan.inquiry a.plan.unknown m

/-- What is known of a search at each stage. -/
def FaithfulStage (config : Config) (past : List (TrafficEvent σ)) (t : Traffic σ) (i : Nat) :
    Stage (Service σ) → Prop
  | .waiting => True
  | .planned p => Planned config past i p
  | .missed p => Planned config past i p
  | .gathered p m => Planned config past i p ∧ Gathered config past i p m
  | .answered a => FaithfulAnswer config past t i a

/-- Every entry in memory is what a finished search kept, and every search is where it should be after these events. -/
structure Sound (config : Config) (past : List (TrafficEvent σ)) (t : Traffic σ) : Prop where
  settings : t.service.config = config
  store : ∃ memory, t.service.store = .memory memory ∧
    ∀ e ∈ memory.entries, ∃ time, t.Kept e.key e.value time ∧ time ≤ t.clock ∧
      e.expiry = time + config.cache.lifetime
  stage : ∀ i, FaithfulStage config past t i (t.stage i)

/-- Answered searches stay as they are. -/
def Remembers (t t' : Traffic σ) : Prop :=
  ∀ j a, t.stage j = .answered a → t'.stage j = .answered a

theorem Kept.mono {t t' : Traffic σ} (h : t.Remembers t') {key : String} {m : Merged} {time : Int}
    (hkept : t.Kept key m time) : t'.Kept key m time := by
  obtain ⟨j, a, hj, hrest⟩ := hkept
  exact ⟨j, a, h j a hj, hrest⟩

section Mono

variable {config : Config} {past past' : List (TrafficEvent σ)} {i : Nat}

theorem Planned.mono (hpast : past ⊆ past') {p : SearchPlan (Service σ)} (h : Planned config past i p) :
    Planned config past' i p := by
  obtain ⟨clock, available, form, hstart, hplan⟩ := h
  exact ⟨clock, available, form, hpast hstart, hplan⟩

theorem Gathered.mono (hpast : past ⊆ past') {p : SearchPlan (Service σ)} {m : Merged}
    (h : Gathered config past i p m) : Gathered config past' i p m := by
  obtain ⟨replies, hgather, hrest⟩ := h
  exact ⟨replies, hpast hgather, hrest⟩

theorem FaithfulAnswer.mono (hpast : past ⊆ past') {t t' : Traffic σ} (h : t.Remembers t')
    {a : Answered (Service σ)} (ha : FaithfulAnswer config past t i a) : FaithfulAnswer config past' t' i a where
  planned := ha.planned.mono hpast
  cached := ha.cached
  kept hown := by
    obtain ⟨hfresh, hlifetime, m, time, hkept, hrest⟩ := ha.kept hown
    exact ⟨hfresh, hlifetime, m, time, hkept.mono h, hrest⟩
  own m hown := ⟨(ha.own m hown).1.mono hpast, (ha.own m hown).2⟩

theorem FaithfulStage.mono (hpast : past ⊆ past') {t t' : Traffic σ} (h : t.Remembers t')
    {s : Stage (Service σ)} (hs : FaithfulStage config past t i s) : FaithfulStage config past' t' i s := by
  cases s with
  | waiting => trivial
  | planned p => exact Planned.mono hpast hs
  | missed p => exact Planned.mono hpast hs
  | gathered p m => exact ⟨Planned.mono hpast hs.1, Gathered.mono hpast hs.2⟩
  | answered a => exact FaithfulAnswer.mono hpast h hs

end Mono

/-- A search that is not answered yet may go on without anything being forgotten. -/
theorem remembers_advance {t : Traffic σ} {i : Nat} (hi : ∀ a, t.stage i ≠ .answered a) (service : Service σ)
    (s : Stage (Service σ)) : t.Remembers ({ t with service }.advance i s) := by
  intro j a hj
  have hne : j ≠ i := by
    rintro rfl
    exact hi a hj
  simpa [advance, Function.update_of_ne hne] using hj

/-- What an event must bring about for the invariant to hold behind it: one search comes to a stage that is as it should
be, and memory holds nothing but what was kept. -/
theorem Sound.advance {config : Config} {past past' : List (TrafficEvent σ)} {t : Traffic σ} (h : t.Sound config past)
    (hpast : past ⊆ past') {i : Nat} (hi : ∀ a, t.stage i ≠ .answered a) {service : Service σ}
    {s : Stage (Service σ)} (hsettings : service.config = config)
    (hstore : ∃ memory, service.store = .memory memory ∧ ∀ e ∈ memory.entries, ∃ time,
      ({ t with service }.advance i s).Kept e.key e.value time ∧ time ≤ t.clock ∧
        e.expiry = time + config.cache.lifetime)
    (hs : FaithfulStage config past' ({ t with service }.advance i s) i s) :
    ({ t with service }.advance i s).Sound config past' where
  settings := hsettings
  store := hstore
  stage j := by
    by_cases hj : j = i
    · subst hj
      simpa [Traffic.advance] using hs
    · have hstage : ({ t with service }.advance i s).stage j = t.stage j := by
        simp [Traffic.advance, Function.update_of_ne hj]
      rw [hstage]
      exact (h.stage j).mono hpast (remembers_advance hi service s)

/-- The invariant holds on while searches rest. -/
theorem Sound.rest {config : Config} {past past' : List (TrafficEvent σ)} {t t' : Traffic σ} (h : t.Sound config past)
    (hpast : past ⊆ past') (hstage : t'.stage = t.stage) (hsettings : t'.service.config = t.service.config)
    (hstore : t'.service.store = t.service.store) (hclock : t.clock ≤ t'.clock) : t'.Sound config past' := by
  have hremembers : t.Remembers t' := fun j a hj => hstage ▸ hj
  obtain ⟨memory, hmemory, hentries⟩ := h.store
  refine ⟨hsettings.trans h.settings, ⟨memory, hstore.trans hmemory, ?_⟩, ?_⟩
  · intro e he
    obtain ⟨time, hkept, htime, hexpiry⟩ := hentries e he
    exact ⟨time, hkept.mono hremembers, Int.le_trans htime hclock, hexpiry⟩
  · intro i
    rw [hstage]
    exact (h.stage i).mono hpast hremembers

section Event

variable {config : Config} {past past' : List (TrafficEvent σ)} {t : Traffic σ} {i : Nat} {p : SearchPlan (Service σ)}
  {m : Merged} {memory memory' : Cache.Memory Merged} {service : Service σ} {s : Stage (Service σ)}

/-- A search is where it should be also behind more events. -/
theorem Sound.stage_eq (h : t.Sound config past) (hpast : past ⊆ past') (hi : t.stage i = s) :
    FaithfulStage config past' t i s := by
  rw [← hi]
  exact (h.stage i).mono hpast fun _ _ hj => hj

/-- What memory held before is still what was kept when a search that was not answered goes on. -/
theorem Sound.entries (h : t.Sound config past) (hmemory : t.service.store = .memory memory)
    (hi : ∀ a, t.stage i ≠ .answered a) (service : Service σ) (s : Stage (Service σ)) :
    ∀ e ∈ memory.entries, ∃ time, ({ t with service }.advance i s).Kept e.key e.value time ∧ time ≤ t.clock ∧
      e.expiry = time + config.cache.lifetime := by
  obtain ⟨memory', hmemory', hentries⟩ := h.store
  obtain rfl : memory' = memory := Cache.Store.memory.inj (hmemory'.symm.trans hmemory)
  intro e he
  obtain ⟨time, hkept, hrest⟩ := hentries e he
  exact ⟨time, hkept.mono (remembers_advance hi service s), hrest⟩

/-- A search goes on, and nothing is added to memory. -/
theorem Sound.advance_within (h : t.Sound config past) (hpast : past ⊆ past') (hi : ∀ a, t.stage i ≠ .answered a)
    (hmemory : t.service.store = .memory memory) (hstore : service.store = .memory memory')
    (hsub : ∀ e ∈ memory'.entries, e ∈ memory.entries) (hsettings : service.config = config)
    (hs : FaithfulStage config past' ({ t with service }.advance i s) i s) :
    ({ t with service }.advance i s).Sound config past' :=
  h.advance hpast hi hsettings ⟨memory', hstore, fun e he => h.entries hmemory hi service s e (hsub e he)⟩ hs

/-- A search that finds something in memory is answered with what was kept. -/
theorem Sound.recalled (h : t.Sound config past) (hpast : past ⊆ past') (hi : t.stage i = .planned p)
    (hrun : (t.aggregator.retrieve p).run t.service = (some m, service)) :
    ({ t with service }.advance i (.answered ⟨p, Aggregator.page p m true, t.clock, none⟩)).Sound config past' := by
  have hopen : ∀ a, t.stage i ≠ .answered a := by simp [hi]
  have hplanned : Planned config past' i p := h.stage_eq hpast hi
  obtain ⟨memory, hmemory, -⟩ := h.store
  rw [aggregator, recall_run hmemory] at hrun
  split at hrun
  · rename_i hactive
    obtain ⟨hfound, rfl⟩ := Prod.mk.inj hrun
    obtain ⟨e, he, hkey, rfl, hlive⟩ := Cache.Memory.exists_entry_of_get hfound
    obtain ⟨time, hkept, htime, hexpiry⟩ := h.entries hmemory hopen _ _ e he
    rw [hkey] at hkept
    rw [hexpiry] at hlive
    exact h.advance_within hpast hopen hmemory rfl (fun _ he => Cache.Memory.mem_entries_get he) h.settings
      ⟨hplanned, rfl, fun _ => ⟨hactive.1, h.settings ▸ hactive.2, e.value, time, hkept, htime, hlive,
        Aggregator.page_shows p e.value true⟩, by simp⟩
  · cases hrun

/-- A search that finds nothing in memory is still planned as it was. -/
theorem Sound.missed (h : t.Sound config past) (hpast : past ⊆ past') (hi : t.stage i = .planned p)
    (hrun : (t.aggregator.retrieve p).run t.service = (none, service)) :
    ({ t with service }.advance i (.missed p)).Sound config past' := by
  have hopen : ∀ a, t.stage i ≠ .answered a := by simp [hi]
  have hplanned : Planned config past' i p := h.stage_eq hpast hi
  obtain ⟨memory, hmemory, -⟩ := h.store
  rw [aggregator, recall_run hmemory] at hrun
  split at hrun
  · obtain ⟨-, rfl⟩ := Prod.mk.inj hrun
    exact h.advance_within hpast hopen hmemory rfl (fun _ he => Cache.Memory.mem_entries_get he) h.settings hplanned
  · obtain ⟨-, rfl⟩ := Prod.mk.inj hrun
    exact h.advance_within hpast hopen hmemory hmemory (fun _ he => he) h.settings hplanned

/-- A search whose indexers have replied is answered with what they found, and that is what is kept, if anything is. -/
theorem Sound.kept (h : t.Sound config past) (hpast : past ⊆ past') (hi : t.stage i = .gathered p m)
    (hrun : service = ((t.aggregator.keep p m).run t.service).2) :
    ({ t with service }.advance i (.answered ⟨p, Aggregator.page p m false, t.clock, some m⟩)).Sound config past' := by
  have hopen : ∀ a, t.stage i ≠ .answered a := by simp [hi]
  obtain ⟨hplanned, hgathered⟩ : Planned config past' i p ∧ Gathered config past' i p m := h.stage_eq hpast hi
  have hanswer : ∀ t', FaithfulAnswer config past' t' i ⟨p, Aggregator.page p m false, t.clock, some m⟩ := by
    refine fun t' => ⟨hplanned, rfl, by simp, fun m' hm' => ?_⟩
    obtain rfl := Option.some.inj hm'
    exact ⟨hgathered, Aggregator.page_shows p m false⟩
  obtain ⟨memory, hmemory, -⟩ := h.store
  rw [aggregator, keep_run hmemory] at hrun
  split at hrun
  · rename_i hactive
    subst hrun
    refine h.advance hpast hopen h.settings ⟨_, rfl, fun e he => ?_⟩ (hanswer _)
    rcases Cache.Memory.mem_entries_set he with hold | rfl
    · exact h.entries hmemory hopen _ _ e hold
    · refine ⟨t.clock, ⟨i, ⟨p, Aggregator.page p m false, t.clock, some m⟩, ?_, rfl, rfl, rfl, hactive.2⟩,
        Int.le_refl _, by simp [h.settings]⟩
      simp [Traffic.advance]
  · subst hrun
    exact h.advance_within hpast hopen hmemory hmemory (fun _ he => he) h.settings (hanswer _)

end Event

/-- **No event breaks the invariant.** -/
theorem Sound.step {config : Config} {past : List (TrafficEvent σ)} {t t' : Traffic σ} {e : TrafficEvent σ}
    (h : t.Sound config past) (he : t.step e = some t') : t'.Sound config (past ++ [e]) := by
  have hpast : past ⊆ past ++ [e] := List.subset_append_left past [e]
  have hlast : e ∈ past ++ [e] := by simp
  obtain ⟨memory, hmemory, -⟩ := h.store
  rcases step_cases he with ⟨now, hnow, rfl⟩ | ⟨registry, network, rfl⟩ |
    ⟨i, available, form, p, rfl, hi, hplan, rfl⟩ | ⟨i, p, m, service, hi, hrun, rfl⟩ |
    ⟨i, p, service, hi, hrun, rfl⟩ | ⟨i, p, replies, rfl, hi, hlength, rfl⟩ | ⟨i, p, m, service, hi, hrun, rfl⟩
  · exact h.rest hpast rfl rfl rfl hnow
  · exact h.rest hpast rfl rfl rfl (Int.le_refl _)
  · have hplanned : Planned config (past ++ [.start i available form]) i p :=
      ⟨t.clock, available, form, hlast, by rw [← h.settings]; exact hplan⟩
    exact h.advance_within hpast (by simp [hi]) hmemory hmemory (fun _ he => he) h.settings hplanned
  · exact h.recalled hpast hi hrun
  · exact h.missed hpast hi hrun
  · have hplanned : Planned config (past ++ [.gather i replies]) i p := h.stage_eq hpast hi
    exact h.advance_within hpast (by simp [hi]) hmemory hmemory (fun _ he => he) h.settings
      ⟨hplanned, replies, hlast, hlength, by rw [h.settings]⟩
  · exact h.kept hpast hi hrun

/-- The invariant holds before any search. -/
theorem Fresh.sound {t : Traffic σ} (h : t.Fresh) : t.Sound t.service.config [] := by
  obtain ⟨memory, hmemory, hempty⟩ := h.store
  refine ⟨rfl, ⟨memory, hmemory, by simp [hempty]⟩, fun i => ?_⟩
  rw [h.stage i]
  trivial

/-- The invariant holds after any events in any order. -/
theorem Sound.run {config : Config} {past events : List (TrafficEvent σ)} {t t' : Traffic σ}
    (h : t.Sound config past) (hrun : t.run events = some t') : t'.Sound config (past ++ events) := by
  induction events generalizing t past with
  | nil =>
      rw [List.append_nil, ← Option.some.inj hrun]
      exact h
  | cons e events ih =>
      rw [run_cons] at hrun
      obtain ⟨middle, hstep, hrest⟩ := Option.bind_eq_some_iff.mp hrun
      rw [List.append_cons]
      exact ih (h.step hstep) hrest

/-- **Answers are faithful, whatever comes between the stages of searches.**  In every run from an empty memory, a page
made from kept outcomes shows what the indexers of some search with the same key found and that search kept, at least
one of them with success, at a moment from which outcomes have not become stale; the search did not ask for a fresh
answer, and outcomes are kept at all.  Every other page shows what the search's own indexers found. -/
theorem answer_faithful {start t : Traffic σ} (hstart : start.Fresh) {events : List (TrafficEvent σ)}
    (hrun : start.run events = some t) {i : Nat} {a : Answered (Service σ)} (hi : t.stage i = .answered a) :
    Planned start.service.config events i a.plan ∧
    (a.page.cached = true →
      a.plan.inquiry.fresh = false ∧ 0 < start.service.config.cache.lifetime ∧
      ∃ j b m, t.stage j = .answered b ∧ b.own = some m ∧ b.plan.key = a.plan.key ∧
        Planned start.service.config events j b.plan ∧ Gathered start.service.config events j b.plan m ∧
        m.hasSuccess = true ∧ b.time ≤ a.time ∧ a.time < b.time + start.service.config.cache.lifetime ∧
        a.page.Shows a.plan.inquiry a.plan.unknown m) ∧
    (a.page.cached = false →
      ∃ m, Gathered start.service.config events i a.plan m ∧ a.page.Shows a.plan.inquiry a.plan.unknown m) := by
  have hsound : t.Sound start.service.config events := hstart.sound.run hrun
  have ha : FaithfulAnswer start.service.config events t i a := by
    have hstage := hsound.stage i
    rwa [hi] at hstage
  refine ⟨ha.planned, fun hcached => ?_, fun hcached => ?_⟩
  · have hown : a.own = none := by simpa [hcached] using ha.cached
    obtain ⟨hfresh, hlifetime, m, time, ⟨j, b, hj, hbown, hkey, rfl, hsuccess⟩, hle, hlt, hshows⟩ := ha.kept hown
    have hb : FaithfulAnswer start.service.config events t j b := by
      have hstage := hsound.stage j
      rwa [hj] at hstage
    exact ⟨hfresh, hlifetime, j, b, m, hj, hbown, hkey, hb.planned, (hb.own m hbown).1, hsuccess, hle, hlt, hshows⟩
  · cases hown : a.own with
    | none => simp [ha.cached, hown] at hcached
    | some m => exact ⟨m, ha.own m hown⟩

/-! ## Two searches -/

/-- A service that keeps nothing yet and is asked nothing yet. -/
def quiet : Traffic Unit where
  service := { config := {}, registry := {}, store := .memory {}, network := () }
  clock := 0
  stage _ := .waiting

/-- An indexer that would never reply by itself. -/
def mute : Searcher (Service Unit) where
  id := "nyaa"
  name := "Nyaa"
  ask _ := pure .late

/-- The plan of a search of the only indexer, under some key. -/
def planFor (text key : String) : SearchPlan (Service Unit) where
  inquiry :=
    { text, indexerIds := [], categoryIds := [], field := .age, descending := true, limit := 100, offset := 0
      fresh := false }
  searchers := [mute]
  unknown := []
  query := { keywords := text }
  key := key

/-- The plan of a search of the only indexer that is put as its form puts it. -/
theorem plan_mute (clock : Int) (text stripped : String) (hstrip : Text.strip text = stripped)
    (hstripped : stripped.isEmpty = false) :
    (Service.aggregator {} clock).plan [mute] { text } = .ok (planFor stripped (searchKey stripped ["nyaa"] [])) := by
  have hcheck : SearchForm.check { text } (Service.aggregator (σ := Unit) {} clock).maxLimit =
      .ok (planFor stripped (searchKey stripped ["nyaa"] [])).inquiry := by
    simp only [SearchForm.check, hstrip, hstripped]
    rfl
  simp only [Aggregator.plan, hcheck]
  rfl

/-- What the only indexer finds when it finds nothing. -/
def nothing : Merged where
  summaries := [{ indexerId := "nyaa", indexerName := "Nyaa" }]

/-- How the first search is answered. -/
def firstAnswer (key : String) : Answered (Service Unit) :=
  ⟨planFor "dune" key, Aggregator.page (planFor "dune" key) nothing false, 0, some nothing⟩

/-- How the second search is answered. -/
def secondAnswer (key : String) : Answered (Service Unit) :=
  ⟨planFor "Dune" key, Aggregator.page (planFor "Dune" key) nothing true, 5, none⟩

/-- The first search is over, and its outcome is kept. -/
def betweenSearches (key : String) : Traffic Unit where
  service := { quiet.service with store := .memory { entries := [⟨key, nothing, 120⟩] } }
  clock := 5
  stage := ((((quiet.advance 0 (.planned (planFor "dune" key))).advance 0 (.missed (planFor "dune" key))).advance
    0 (.gathered (planFor "dune" key) nothing)).advance 0 (.answered (firstAnswer key))).stage

/-- The second search is over. -/
def behindSearches (key : String) : Traffic Unit :=
  ((betweenSearches key).advance 1 (.planned (planFor "Dune" key))).advance 1 (.answered (secondAnswer key))

/-- The first search goes on to its end, and then five seconds pass. -/
def firstSearch : List (TrafficEvent Unit) :=
  [.retrieve 0, .gather 0 [.outcome { indexerId := "nyaa", indexerName := "Nyaa" }], .keep 0, .tick 5]

/-- Someone searches the only indexer, and five seconds later someone else searches it for the same. -/
def twice : List (TrafficEvent Unit) :=
  .start 0 [mute] { text := "dune" } :: firstSearch ++ [.start 1 [mute] { text := "Dune " }, .retrieve 1]

/-- The second search finds what the first one kept, where their plans have one key. -/
theorem run_twice {key : String}
    (hfirst : (Service.aggregator {} 0).plan [mute] { text := "dune" } = .ok (planFor "dune" key))
    (hsecond : (Service.aggregator {} 5).plan [mute] { text := "Dune " } = .ok (planFor "Dune" key)) :
    quiet.run twice = some (behindSearches key) := by
  have hstart : quiet.step (.start 0 [mute] { text := "dune" }) =
      some (quiet.advance 0 (.planned (planFor "dune" key))) := step_start rfl hfirst
  have hmiddle : (quiet.advance 0 (.planned (planFor "dune" key))).run firstSearch =
      some (betweenSearches key) := rfl
  have hagain : (betweenSearches key).step (.start 1 [mute] { text := "Dune " }) =
      some ((betweenSearches key).advance 1 (.planned (planFor "Dune" key))) := step_start rfl hsecond
  have hrecall : ((betweenSearches key).aggregator.retrieve (planFor "Dune" key)).run (betweenSearches key).service =
      (some nothing, (betweenSearches key).service) := by
    have hstore : (betweenSearches key).service.store = .memory { entries := [⟨key, nothing, 120⟩] } := rfl
    rw [aggregator, recall_run hstore, if_pos ⟨rfl, (by decide : 0 < ({} : Config).cache.lifetime)⟩]
    simp [Cache.Memory.get, Cache.written?, Cache.Entry.isLive, planFor, betweenSearches]
  have hlast : ((betweenSearches key).advance 1 (.planned (planFor "Dune" key))).step (.retrieve 1) =
      some (behindSearches key) := step_recall_found rfl hrecall
  rw [twice, List.cons_append, run_cons, hstart, Option.bind_some, run_append, hmiddle, Option.bind_some, run_cons,
    hagain, Option.bind_some, run_cons, hlast]
  rfl

/-- The second of two searches with the same key is answered with what the first one found. -/
theorem answer_faithful_twice : ∃ t a b m, quiet.run twice = some t ∧ t.stage 1 = .answered a ∧
    a.page.cached = true ∧ (∃ j, t.stage j = .answered b) ∧ b.own = some m ∧ b.plan.key = a.plan.key ∧
    b.time ≤ a.time ∧ a.time < b.time + 120 ∧ a.page.Shows a.plan.inquiry a.plan.unknown m := by
  have hidentity : searchIdentity "Dune" ["nyaa"] [] = searchIdentity "dune" ["nyaa"] [] := by decide +kernel
  have hkey : searchKey "Dune" ["nyaa"] [] = searchKey "dune" ["nyaa"] [] := by
    simp only [searchKey, hidentity]
  have hsecond := plan_mute 5 "Dune " "Dune" (by decide) (by decide)
  rw [hkey] at hsecond
  have hrun := run_twice (plan_mute 0 "dune" "dune" (by decide) (by decide)) hsecond
  have hanswered : (behindSearches (searchKey "dune" ["nyaa"] [])).stage 1 =
      .answered (secondAnswer (searchKey "dune" ["nyaa"] [])) := by
    simp [behindSearches, advance]
  obtain ⟨-, hcached, -⟩ := answer_faithful ⟨⟨_, rfl, rfl⟩, fun _ => rfl⟩ hrun hanswered
  obtain ⟨-, -, j, b, m, hj, hown, hbkey, -, -, -, hle, hlt, hshows⟩ := hcached rfl
  exact ⟨_, _, b, m, hrun, hanswered, rfl, ⟨j, hj⟩, hown, hbkey, hle, hlt, hshows⟩

end Traffic

end MetaSearch
