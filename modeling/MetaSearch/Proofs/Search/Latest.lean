import MetaSearch.Proofs.Search.Faithful

/-!
# The latest outcomes are shown

Of all searches with the same key, the one that kept its outcomes last is the one whose outcomes are shown.  The order
that counts is that in which searches keep what they found, not that in which they were put to the indexers: a search
that began earlier and took longer takes the place of one that began later and asked for a fresh answer.

* `KeptAt` says with which event a search kept its outcomes, and `KeptLast` that nothing was kept under the key after it.
* `Traced` is the invariant: whatever memory holds was kept last under its key.  It is carried by `KeptAt.cases`: an event
  adds at most the keeping that it is itself.
* `answer_latest` is the law of the order, and `fresh_overtaken` a run in which the earlier of two searches is shown.
-/

namespace MetaSearch

variable {σ : Type}

/-- Whether a search has been put to its indexers, or is past that. -/
def Stage.isUnderWay : Stage σ → Bool
  | .waiting | .planned _ => false
  | .missed _ | .gathered _ _ | .answered _ => true

namespace Traffic

/-- With one of the events, by its number, a search kept outcomes under a key. -/
structure KeptAt (past : List (TrafficEvent σ)) (t : Traffic σ) (n k : Nat) (key : String) (m : Merged) : Prop where
  event : past[n]? = some (.keep k)
  lasting : 0 < t.service.config.cache.lifetime
  answered : ∃ b, t.stage k = .answered b ∧ b.own = some m ∧ b.plan.key = key ∧ m.hasSuccess = true

/-- No search kept outcomes under the key after this one. -/
structure KeptLast (past : List (TrafficEvent σ)) (t : Traffic σ) (n k : Nat) (key : String) (m : Merged) : Prop where
  kept : t.KeptAt past n k key m
  last : ∀ n' k' m', t.KeptAt past n' k' key m' → n' ≤ n

/-- What events leave behind: searches that were put to their indexers once, searches that are answered where they kept
something, and a memory of what was kept last. -/
structure Traced (past : List (TrafficEvent σ)) (t : Traffic σ) : Prop where
  begun : ∀ k, TrafficEvent.retrieve k ∈ past → (t.stage k).isUnderWay = true
  once : ∀ x y k : Nat, past[x]? = some (.retrieve k) → past[y]? = some (.retrieve k) → x = y
  ended : ∀ k, TrafficEvent.keep k ∈ past → ∃ b, t.stage k = .answered b
  store : ∃ memory, t.service.store = .memory memory ∧
    ∀ e ∈ memory.entries, ∃ n k, t.KeptLast past n k e.key e.value

/-! ## One event -/

section Step

variable {t t' : Traffic σ} {e : TrafficEvent σ}

/-- The numbers of events when one more happens. -/
theorem getElem?_concat_eq_some {α : Type} {xs : List α} {x y : α} {n : Nat} :
    (xs ++ [x])[n]? = some y ↔ xs[n]? = some y ∨ n = xs.length ∧ x = y := by
  rcases Nat.lt_trichotomy n xs.length with hlt | rfl | hgt
  · rw [List.getElem?_append_left hlt]
    exact ⟨.inl, fun h => h.resolve_right fun heq => by omega⟩
  · simp
  · have hnone : (xs ++ [x])[n]? = none := List.getElem?_eq_none (by simp; omega)
    have hnone' : xs[n]? = none := List.getElem?_eq_none (by omega)
    rw [hnone, hnone']
    constructor
    · intro h
      cases h
    · rintro (h | ⟨rfl, -⟩)
      · cases h
      · exact absurd hgt (Nat.lt_irrefl _)

/-- An event takes at most one search further, one that is not answered yet, and never back before its indexers. -/
theorem step_stage (h : t.step e = some t') :
    t'.stage = t.stage ∨ ∃ i s, t'.stage = Function.update t.stage i s ∧ (∀ a, t.stage i ≠ .answered a) ∧
      ((t.stage i).isUnderWay = true → s.isUnderWay = true) := by
  rcases step_cases h with ⟨now, -, rfl⟩ | ⟨registry, network, rfl⟩ | ⟨i, available, form, p, -, hi, -, rfl⟩ |
    ⟨i, p, m, service, hi, -, rfl⟩ | ⟨i, p, service, hi, -, rfl⟩ | ⟨i, p, replies, -, hi, -, rfl⟩ |
    ⟨i, p, m, service, hi, -, rfl⟩
  · exact .inl rfl
  · exact .inl rfl
  · exact .inr ⟨i, _, rfl, by simp [hi], by simp [hi, Stage.isUnderWay]⟩
  · exact .inr ⟨i, _, rfl, by simp [hi], fun _ => rfl⟩
  · exact .inr ⟨i, _, rfl, by simp [hi], fun _ => rfl⟩
  · exact .inr ⟨i, _, rfl, by simp [hi], fun _ => rfl⟩
  · exact .inr ⟨i, _, rfl, by simp [hi], fun _ => rfl⟩

/-- Answered searches stay as they are. -/
theorem step_remembers (h : t.step e = some t') : t.Remembers t' := by
  intro j a hj
  rcases step_stage h with hsame | ⟨i, s, hupdate, hi, -⟩
  · rw [hsame, hj]
  · have hne : j ≠ i := by
      rintro rfl
      exact hi a hj
    rw [hupdate, Function.update_of_ne hne, hj]

/-- A search that was put to its indexers is never put back. -/
theorem step_isUnderWay (h : t.step e = some t') {k : Nat} (hk : (t.stage k).isUnderWay = true) :
    (t'.stage k).isUnderWay = true := by
  rcases step_stage h with hsame | ⟨i, s, hupdate, -, hs⟩
  · rw [hsame, hk]
  · by_cases hki : k = i
    · subst hki
      rw [hupdate, Function.update_self]
      exact hs hk
    · rw [hupdate, Function.update_of_ne hki, hk]

/-- What comes of it when a planned search looks for outcomes: it is answered with what memory holds under its key, or
it is put to its indexers. -/
theorem step_retrieve {i : Nat} (h : t.step (.retrieve i) = some t') {memory : Cache.Memory Merged}
    (hmemory : t.service.store = .memory memory) :
    ∃ p memory', t.stage i = .planned p ∧ t'.service.config = t.service.config ∧
      t'.service.store = .memory memory' ∧ memory'.entries ⊆ memory.entries ∧
      (t'.stage i = .missed p ∨ ∃ e ∈ memory.entries, e.key = p.key ∧
        t'.stage i = .answered ⟨p, Aggregator.page p e.value true, t.clock, none⟩) := by
  simp only [step] at h
  split at h
  · rename_i p hi
    split at h
    rename_i found service hrun
    rw [aggregator, recall_run hmemory] at hrun
    rw [← Option.some.inj h]
    split at hrun
    · obtain ⟨hfound, rfl⟩ := Prod.mk.inj hrun
      refine ⟨p, _, hi, rfl, rfl, fun e he => Cache.Memory.mem_entries_get he, ?_⟩
      cases found with
      | none => exact .inl (Function.update_self ..)
      | some m =>
          obtain ⟨e, he, hkey, rfl, -⟩ := Cache.Memory.exists_entry_of_get hfound
          exact .inr ⟨e, he, hkey, Function.update_self ..⟩
    · obtain ⟨rfl, rfl⟩ := Prod.mk.inj hrun
      exact ⟨p, memory, hi, rfl, hmemory, List.Subset.refl _, .inl (Function.update_self ..)⟩
  · cases h

/-- What comes of it when a search keeps what its indexers found. -/
theorem step_keep {k : Nat} (h : t.step (.keep k) = some t') {memory : Cache.Memory Merged}
    (hmemory : t.service.store = .memory memory) :
    ∃ p m, t'.stage k = .answered ⟨p, Aggregator.page p m false, t.clock, some m⟩ ∧
      t'.service.config = t.service.config ∧
      t'.service.store = .memory (if 0 < t.service.config.cache.lifetime ∧ m.hasSuccess = true then
        memory.set p.key m (some t.service.config.cache.lifetime) t.clock else memory) := by
  simp only [step] at h
  split at h
  · rename_i p m hi
    rw [← Option.some.inj h, aggregator, keep_run hmemory]
    refine ⟨p, m, by simp [advance], ?_⟩
    split
    · exact ⟨rfl, rfl⟩
    · exact ⟨rfl, hmemory⟩
  · cases h

/-- Nothing is added to memory but by keeping. -/
theorem step_shrinks (h : t.step e = some t') (hkeep : ∀ k, e ≠ .keep k) {memory : Cache.Memory Merged}
    (hmemory : t.service.store = .memory memory) :
    t'.service.config = t.service.config ∧
      ∃ memory', t'.service.store = .memory memory' ∧ memory'.entries ⊆ memory.entries := by
  have hsame : t'.service = t.service → t'.service.config = t.service.config ∧
      ∃ memory', t'.service.store = .memory memory' ∧ memory'.entries ⊆ memory.entries := by
    intro heq
    rw [heq]
    exact ⟨rfl, memory, hmemory, List.Subset.refl _⟩
  cases e with
  | keep k => exact absurd rfl (hkeep k)
  | tick now =>
      simp only [step] at h
      split at h
      · exact hsame (by rw [← Option.some.inj h])
      · cases h
  | change registry network =>
      rw [← Option.some.inj h]
      exact ⟨rfl, memory, hmemory, List.Subset.refl _⟩
  | start i available form =>
      simp only [step] at h
      split at h
      · exact hsame (by rw [← Option.some.inj h]; rfl)
      · cases h
  | retrieve i =>
      obtain ⟨p, memory', -, hconfig, hstore, hsubset, -⟩ := step_retrieve h hmemory
      exact ⟨hconfig, memory', hstore, hsubset⟩
  | gather i replies =>
      simp only [step] at h
      split at h
      · split at h
        · exact hsame (by rw [← Option.some.inj h]; rfl)
        · cases h
      · cases h

end Step

/-! ## What events leave behind -/

section Traced

variable {past : List (TrafficEvent σ)} {t t' : Traffic σ} {e : TrafficEvent σ}

/-- What was kept stays so. -/
theorem KeptAt.later {n k : Nat} {key : String} {m : Merged} (h : t.KeptAt past n k key m)
    (he : t.step e = some t') (hconfig : t'.service.config = t.service.config) :
    t'.KeptAt (past ++ [e]) n k key m where
  event := getElem?_concat_eq_some.mpr (.inl h.event)
  lasting := hconfig ▸ h.lasting
  answered := by
    obtain ⟨b, hb, hrest⟩ := h.answered
    exact ⟨b, step_remembers he k b hb, hrest⟩

/-- **An event adds at most the keeping that it is itself.** -/
theorem KeptAt.cases {n k : Nat} {key : String} {m : Merged} (h : t'.KeptAt (past ++ [e]) n k key m)
    (ht : t.Traced past) (he : t.step e = some t') (hconfig : t'.service.config = t.service.config) :
    t.KeptAt past n k key m ∨ n = past.length ∧ e = .keep k := by
  rcases getElem?_concat_eq_some.mp h.event with hevent | hnew
  · refine .inl ⟨hevent, hconfig ▸ h.lasting, ?_⟩
    obtain ⟨b, hb⟩ := ht.ended k (List.mem_of_getElem? hevent)
    obtain ⟨b', hb', hrest⟩ := h.answered
    obtain rfl : b = b' := by simpa [step_remembers he k b hb] using hb'
    exact ⟨b, hb, hrest⟩
  · exact .inr hnew

/-- What was kept last stays so while nothing is kept under its key. -/
theorem KeptLast.later {n k : Nat} {key : String} {m : Merged} (h : t.KeptLast past n k key m) (ht : t.Traced past)
    (he : t.step e = some t') (hconfig : t'.service.config = t.service.config)
    (hother : ∀ k' m', e = .keep k' → ¬ t'.KeptAt (past ++ [e]) past.length k' key m') :
    t'.KeptLast (past ++ [e]) n k key m where
  kept := h.kept.later he hconfig
  last n' k' m' hkept := by
    rcases hkept.cases ht he hconfig with hold | ⟨rfl, hkeep⟩
    · exact h.last n' k' m' hold
    · exact absurd hkept (hother k' m' hkeep)

/-- Memory holds what was kept last, also after one more event. -/
theorem Traced.store_step (h : t.Traced past) (he : t.step e = some t') :
    ∃ memory, t'.service.store = .memory memory ∧
      ∀ entry ∈ memory.entries, ∃ n k, t'.KeptLast (past ++ [e]) n k entry.key entry.value := by
  obtain ⟨memory, hmemory, hentries⟩ := h.store
  by_cases hkeep : ∃ k, e = .keep k
  · obtain ⟨k, rfl⟩ := hkeep
    obtain ⟨p, m, hstage, hconfig, hstore⟩ := step_keep he hmemory
    have hkey : ∀ {n k' key m'}, (.keep k : TrafficEvent σ) = .keep k' → t'.KeptAt (past ++ [.keep k]) n k' key m' →
        key = p.key ∧ m' = m ∧ m'.hasSuccess = true := by
      rintro n k' key m' heq ⟨-, -, b, hb, hown, hkey, hsuccess⟩
      cases heq
      obtain rfl : b = ⟨p, Aggregator.page p m false, t.clock, some m⟩ := by simpa [hstage, eq_comm] using hb
      exact ⟨hkey.symm, (Option.some.inj hown).symm, hsuccess⟩
    split at hstore
    · rename_i hstored
      have hnew : t'.KeptAt (past ++ [.keep k]) past.length k p.key m :=
        ⟨by simp, hconfig ▸ hstored.1, _, hstage, rfl, rfl, hstored.2⟩
      refine ⟨_, hstore, fun entry hentry => ?_⟩
      rcases Cache.Memory.other_or_new_of_mem_set hentry with ⟨hold, hne⟩ | rfl
      · obtain ⟨n, k', hlast⟩ := hentries entry hold
        exact ⟨n, k', hlast.later h he hconfig fun _ _ heq hkept => hne (hkey heq hkept).1⟩
      · refine ⟨past.length, k, hnew, fun n' k' m' hkept => ?_⟩
        rcases hkept.cases h he hconfig with hold | ⟨rfl, -⟩
        · exact Nat.le_of_lt (List.getElem?_eq_some_iff.mp hold.event).1
        · exact Nat.le_refl _
    · rename_i hlost
      refine ⟨memory, hstore, fun entry hentry => ?_⟩
      obtain ⟨n, k', hlast⟩ := hentries entry hentry
      refine ⟨n, k', hlast.later h he hconfig fun _ _ heq hkept => hlost ⟨hconfig ▸ hkept.lasting, ?_⟩⟩
      obtain ⟨-, rfl, hsuccess⟩ := hkey heq hkept
      exact hsuccess
  · have hother : ∀ k, e ≠ .keep k := fun k heq => hkeep ⟨k, heq⟩
    obtain ⟨hconfig, memory', hstore, hsubset⟩ := step_shrinks he hother hmemory
    refine ⟨memory', hstore, fun entry hentry => ?_⟩
    obtain ⟨n, k, hlast⟩ := hentries entry (hsubset hentry)
    exact ⟨n, k, hlast.later h he hconfig fun k' _ heq => absurd heq (hother k')⟩

/-- **No event breaks the invariant.** -/
theorem Traced.step (h : t.Traced past) (he : t.step e = some t') : t'.Traced (past ++ [e]) where
  begun k hk := by
    rcases List.mem_append.mp hk with hold | hnew
    · exact step_isUnderWay he (h.begun k hold)
    · obtain rfl := List.mem_singleton.mp hnew
      obtain ⟨memory, hmemory, -⟩ := h.store
      obtain ⟨p, -, -, -, -, -, hstage | ⟨entry, -, -, hstage⟩⟩ := step_retrieve he hmemory
      · rw [hstage]
        rfl
      · rw [hstage]
        rfl
  once x y k hx hy := by
    have hfirst : ∀ n : Nat, past[n]? = some (.retrieve k) → e ≠ .retrieve k := by
      rintro n hn rfl
      obtain ⟨memory, hmemory, -⟩ := h.store
      obtain ⟨p, -, hplanned, -⟩ := step_retrieve he hmemory
      have hbegun := h.begun k (List.mem_of_getElem? hn)
      rw [hplanned] at hbegun
      cases hbegun
    rcases getElem?_concat_eq_some.mp hx with hxold | ⟨rfl, hxnew⟩
    · rcases getElem?_concat_eq_some.mp hy with hyold | ⟨rfl, hynew⟩
      · exact h.once x y k hxold hyold
      · exact absurd hynew (hfirst x hxold)
    · rcases getElem?_concat_eq_some.mp hy with hyold | ⟨rfl, -⟩
      · exact absurd hxnew (hfirst y hyold)
      · rfl
  ended k hk := by
    rcases List.mem_append.mp hk with hold | hnew
    · obtain ⟨b, hb⟩ := h.ended k hold
      exact ⟨b, step_remembers he k b hb⟩
    · obtain rfl := List.mem_singleton.mp hnew
      obtain ⟨memory, hmemory, -⟩ := h.store
      obtain ⟨p, m, hstage, -⟩ := step_keep he hmemory
      exact ⟨_, hstage⟩
  store := h.store_step he

/-- The invariant holds before any search. -/
theorem Fresh.traced (h : t.Fresh) : t.Traced [] where
  begun k hk := by cases hk
  once x y k hx := by cases hx
  ended k hk := by cases hk
  store := by
    obtain ⟨memory, hmemory, hempty⟩ := h.store
    exact ⟨memory, hmemory, by simp [hempty]⟩

/-- The invariant holds after any events in any order. -/
theorem Traced.run (h : t.Traced past) {events : List (TrafficEvent σ)} (hrun : t.run events = some t') :
    t'.Traced (past ++ events) := by
  induction events generalizing t past with
  | nil =>
      rw [List.append_nil, ← Option.some.inj hrun]
      exact h
  | cons e events ih =>
      rw [run_cons] at hrun
      obtain ⟨middle, hstep, hrest⟩ := Option.bind_eq_some_iff.mp hrun
      rw [List.append_cons]
      exact ih (h.step hstep) hrest

end Traced

/-- **The latest outcomes are shown.**  Some search has kept its outcomes, and later another search with the same key is
answered from memory.  What it shows is what the last search before it kept under that key: the one at hand, or one
that kept its outcomes after it.  So outcomes of a search that was put to its indexers before the one at hand are shown
only where that search kept them after it. -/
theorem answer_latest {start t t' : Traffic σ} (hstart : start.Fresh) {past : List (TrafficEvent σ)}
    (hrun : start.run past = some t) {i : Nat} (hstep : t.step (.retrieve i) = some t')
    {a : Answered (Service σ)} (hi : t'.stage i = .answered a) {v j : Nat} {own : Merged}
    (hkept : t.KeptAt past v j a.plan.key own) :
    a.page.cached = true ∧ ∃ w k m, t.KeptLast past w k a.plan.key m ∧
      a.page.Shows a.plan.inquiry a.plan.unknown m ∧ (w = v ∧ k = j ∧ m = own ∨ v < w) ∧
      ∀ x y : Nat, past[x]? = some (.retrieve k) → past[y]? = some (.retrieve j) → x < y → v < w := by
  have htraced : t.Traced past := hstart.traced.run hrun
  obtain ⟨memory, hmemory, hentries⟩ := htraced.store
  obtain ⟨e, he, hkey, hcached, hshows⟩ : ∃ e ∈ memory.entries, e.key = a.plan.key ∧ a.page.cached = true ∧
      a.page.Shows a.plan.inquiry a.plan.unknown e.value := by
    obtain ⟨p, -, -, -, -, -, hstage | ⟨e, he, hkey, hstage⟩⟩ := step_retrieve hstep hmemory
    · simp [hi] at hstage
    · obtain rfl : a = ⟨p, Aggregator.page p e.value true, t.clock, none⟩ := by simpa [hi] using hstage
      exact ⟨e, he, hkey, rfl, Aggregator.page_shows p e.value true⟩
  obtain ⟨w, k, hlast⟩ := hentries e he
  rw [hkey] at hlast
  have hlatest : w = v ∧ k = j ∧ e.value = own ∨ v < w := by
    rcases Nat.lt_or_eq_of_le (hlast.last v j own hkept) with hlt | rfl
    · exact .inr hlt
    · -- with one event one search keeps one set of outcomes
      obtain rfl : k = j := by simpa using hlast.kept.event.symm.trans hkept.event
      obtain ⟨b, hb, hown, -⟩ := hlast.kept.answered
      obtain ⟨b', hb', hown', -⟩ := hkept.answered
      obtain rfl : b = b' := by simpa [hb] using hb'
      exact .inl ⟨rfl, rfl, Option.some.inj (hown.symm.trans hown')⟩
  refine ⟨hcached, w, k, e.value, hlast, hshows, hlatest, fun x y hx hy hxy => ?_⟩
  rcases hlatest with ⟨-, rfl, -⟩ | hlt
  · have hsame := htraced.once x y k hx hy
    omega
  · exact hlt

/-! ## An overtaken search -/

/-- What the only indexer finds when it finds something. -/
def sighting : Outcome where
  indexerId := "nyaa"
  indexerName := "Nyaa"
  releases :=
    [{ title := "Dune", downloadUrl := "https://nyaa.si/1", guid := "1", indexerId := "nyaa", indexerName := "Nyaa" }]

/-- The plan of a search that asks for a fresh answer. -/
def freshPlanFor (text key : String) : SearchPlan (Service Unit) :=
  { planFor text key with inquiry := { (planFor text key).inquiry with fresh := true } }

/-- The plan of a search of the only indexer that asks for a fresh answer. -/
theorem plan_mute_fresh (clock : Int) (text : String) (hstrip : Text.strip text = text) (htext : text.isEmpty = false) :
    (Service.aggregator {} clock).plan [mute] { text, fresh := true } =
      .ok (freshPlanFor text (searchKey text ["nyaa"] [])) := by
  have hcheck : SearchForm.check { text, fresh := true } (Service.aggregator (σ := Unit) {} clock).maxLimit =
      .ok (freshPlanFor text (searchKey text ["nyaa"] [])).inquiry := by
    simp only [SearchForm.check, hstrip, htext]
    rfl
  simp only [Aggregator.plan, hcheck]
  rfl

/-- How the fresh search is answered. -/
def freshAnswer (key : String) : Answered (Service Unit) :=
  ⟨freshPlanFor "dune" key, Aggregator.page (freshPlanFor "dune" key) (.ofOutcomes [sighting]) false, 0,
    some (.ofOutcomes [sighting])⟩

/-- How the last search is answered. -/
def lateAnswer (key : String) : Answered (Service Unit) :=
  ⟨planFor "dune" key, Aggregator.page (planFor "dune" key) nothing true, 0, none⟩

/-- A search is put to its indexer. -/
def pending (key : String) : Traffic Unit :=
  (quiet.advance 0 (.planned (planFor "dune" key))).advance 0 (.missed (planFor "dune" key))

/-- Behind it a fresh search is put to the same indexer and comes to its end, and then the first one's indexer replies. -/
def race (key : String) : Traffic Unit where
  service := { quiet.service with store := .memory { entries := [⟨key, .ofOutcomes [sighting], 120⟩] } }
  clock := 0
  stage := (((((pending key).advance 1 (.planned (freshPlanFor "dune" key))).advance
    1 (.missed (freshPlanFor "dune" key))).advance
    1 (.gathered (freshPlanFor "dune" key) (.ofOutcomes [sighting]))).advance 1 (.answered (freshAnswer key))).advance
    0 (.gathered (planFor "dune" key) nothing) |>.stage

/-- The first search is over as well. -/
def overtaken (key : String) : Traffic Unit :=
  { race key with
    service := { quiet.service with store := .memory { entries := [⟨key, nothing, 120⟩] } } }.advance
    0 (.answered (firstAnswer key))

/-- A third search is planned. -/
def behindRace (key : String) : Traffic Unit :=
  (overtaken key).advance 2 (.planned (planFor "dune" key))

/-- A search is put to its indexer, then one that asks for a fresh answer; the fresh one is over first. -/
def overtaking : List (TrafficEvent Unit) :=
  [.start 0 [mute] { text := "dune" }, .retrieve 0, .start 1 [mute] { text := "dune", fresh := true }] ++
  [.retrieve 1, .gather 1 [.outcome sighting], .keep 1, .gather 0 [.outcome { indexerId := "nyaa", indexerName := "Nyaa" }]]
  ++ [.keep 0, .start 2 [mute] { text := "dune" }]

/-- What the overtaken search keeps takes the place of what the fresh one kept. -/
theorem run_overtaking {key : String}
    (hplan : (Service.aggregator {} 0).plan [mute] { text := "dune" } = .ok (planFor "dune" key))
    (hfresh : (Service.aggregator {} 0).plan [mute] { text := "dune", fresh := true } =
      .ok (freshPlanFor "dune" key)) :
    quiet.run overtaking = some (behindRace key) := by
  have hstarts : quiet.run
      [.start 0 [mute] { text := "dune" }, .retrieve 0, .start 1 [mute] { text := "dune", fresh := true }] =
      some ((pending key).advance 1 (.planned (freshPlanFor "dune" key))) := by
    have hfirst : quiet.step (.start 0 [mute] { text := "dune" }) =
        some (quiet.advance 0 (.planned (planFor "dune" key))) := step_start rfl hplan
    have hmissed : (quiet.advance 0 (.planned (planFor "dune" key))).step (.retrieve 0) = some (pending key) := rfl
    have hsecond : (pending key).step (.start 1 [mute] { text := "dune", fresh := true }) =
        some ((pending key).advance 1 (.planned (freshPlanFor "dune" key))) := step_start rfl hfresh
    rw [run_cons, hfirst, Option.bind_some, run_cons, hmissed, Option.bind_some, run_cons, hsecond]
    rfl
  have hrace : ((pending key).advance 1 (.planned (freshPlanFor "dune" key))).run
      [.retrieve 1, .gather 1 [.outcome sighting], .keep 1,
        .gather 0 [.outcome { indexerId := "nyaa", indexerName := "Nyaa" }]] = some (race key) := rfl
  have hkeep : (race key).step (.keep 0) = some (overtaken key) := by
    have hgathered : (race key).stage 0 = .gathered (planFor "dune" key) nothing := rfl
    have hstore : (race key).service.store = .memory { entries := [⟨key, .ofOutcomes [sighting], 120⟩] } := rfl
    have hlasting : 0 < (race key).service.config.cache.lifetime := (by decide : 0 < ({} : Config).cache.lifetime)
    simp only [step, hgathered]
    rw [aggregator, keep_run hstore, if_pos ⟨hlasting, by decide⟩]
    have hset : Cache.Memory.set key nothing (some 120) 0 { entries := [⟨key, .ofOutcomes [sighting], 120⟩] } =
        { entries := [⟨key, nothing, 120⟩] } := by
      simp [Cache.Memory.set, Cache.without, Cache.Entry.isLive]
    exact congrArg (fun memory : Cache.Memory Merged =>
      some (({ race key with service := { quiet.service with store := .memory memory } } : Traffic Unit).advance
        0 (.answered (firstAnswer key)))) hset
  have hthird : (overtaken key).step (.start 2 [mute] { text := "dune" }) = some (behindRace key) :=
    step_start rfl hplan
  rw [overtaking, run_append, run_append, hstarts, Option.bind_some, hrace, Option.bind_some, run_cons, hkeep,
    Option.bind_some, run_cons, hthird]
  rfl

/-- How the race ends, and what its two searches kept. -/
theorem exists_overtaken : ∃ key, quiet.run overtaking = some (behindRace key) ∧
    (behindRace key).step (.retrieve 2) = some ((behindRace key).advance 2 (.answered (lateAnswer key))) ∧
    (behindRace key).KeptAt overtaking 5 1 key (.ofOutcomes [sighting]) ∧
    (behindRace key).KeptAt overtaking 7 0 key nothing := by
  refine ⟨searchKey "dune" ["nyaa"] [], run_overtaking (plan_mute 0 "dune" "dune" (by decide) (by decide))
    (plan_mute_fresh 0 "dune" (by decide) (by decide)), ?_, ?_, ?_⟩
  all_goals generalize searchKey "dune" ["nyaa"] [] = key
  · have hstore : (behindRace key).service.store = .memory { entries := [⟨key, nothing, 120⟩] } := rfl
    have hrecall : ((behindRace key).aggregator.retrieve (planFor "dune" key)).run (behindRace key).service =
        (some nothing, (behindRace key).service) := by
      rw [aggregator, recall_run hstore, if_pos ⟨rfl, (by decide : 0 < ({} : Config).cache.lifetime)⟩]
      simp [Cache.Memory.get, Cache.written?, Cache.Entry.isLive, planFor, behindRace, overtaken, race, advance]
    exact step_recall_found rfl hrecall
  · exact ⟨rfl, (by decide : 0 < ({} : Config).cache.lifetime), freshAnswer key, rfl, rfl, rfl, by decide⟩
  · exact ⟨rfl, (by decide : 0 < ({} : Config).cache.lifetime), firstAnswer key, rfl, rfl, rfl, by decide⟩

/-- In the race the third search is shown what the overtaken search kept last. -/
theorem answer_latest_overtaken : ∃ t t' a w k m, quiet.run overtaking = some t ∧ t.step (.retrieve 2) = some t' ∧
    t'.stage 2 = .answered a ∧ t.KeptAt overtaking 5 1 a.plan.key (.ofOutcomes [sighting]) ∧
    a.page.cached = true ∧ t.KeptLast overtaking w k a.plan.key m ∧ 5 < w ∧
    a.page.Shows a.plan.inquiry a.plan.unknown m := by
  obtain ⟨key, hrun, hthird, hfresh, hovertaken⟩ := exists_overtaken
  have hanswered : ((behindRace key).advance 2 (.answered (lateAnswer key))).stage 2 = .answered (lateAnswer key) :=
    rfl
  obtain ⟨hcached, w, k, m, hlast, hshows, -⟩ := answer_latest ⟨⟨_, rfl, rfl⟩, fun _ => rfl⟩ hrun hthird hanswered hfresh
  have hseven : 7 ≤ w := hlast.last 7 0 nothing hovertaken
  exact ⟨_, _, _, w, k, m, hrun, hthird, hanswered, hfresh, hcached, hlast, by omega, hshows⟩

/-- A fresh search is undone by one that was put to its indexer before: the third search is shown what the first one
found and not what the second one did. -/
theorem fresh_overtaken : ∃ t t' b a, quiet.run overtaking = some t ∧ t.step (.retrieve 2) = some t' ∧
    t.stage 1 = .answered b ∧ b.plan.inquiry.fresh = true ∧
    overtaking[3]? = some (.retrieve 1) ∧ t.KeptAt overtaking 5 1 b.plan.key (.ofOutcomes [sighting]) ∧
    overtaking[1]? = some (.retrieve 0) ∧ t.KeptAt overtaking 7 0 b.plan.key nothing ∧
    t'.stage 2 = .answered a ∧ a.plan.key = b.plan.key ∧ a.page.cached = true ∧
    a.page.Shows a.plan.inquiry a.plan.unknown nothing ∧
    ¬ a.page.Shows a.plan.inquiry a.plan.unknown (.ofOutcomes [sighting]) := by
  obtain ⟨key, hrun, hthird, hfresh, hovertaken⟩ := exists_overtaken
  have hempty : ¬ (lateAnswer key).page.Shows (lateAnswer key).plan.inquiry (lateAnswer key).plan.unknown
      (.ofOutcomes [sighting]) := by
    intro hshows
    have hsummaries : nothing.summaries = (Merged.ofOutcomes [sighting]).summaries := hshows.summaries
    exact absurd hsummaries (by decide)
  exact ⟨_, _, freshAnswer key, lateAnswer key, hrun, hthird, rfl, rfl, rfl, hfresh, rfl, hovertaken, rfl, rfl, rfl,
    Aggregator.page_shows _ _ true, hempty⟩

end Traffic

end MetaSearch
