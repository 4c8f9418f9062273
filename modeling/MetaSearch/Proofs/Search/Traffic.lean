import MetaSearch.Proofs.Cache.Contents
import MetaSearch.Service.Basic
import Mathlib.Logic.Function.Basic

/-!
# Searches at the same time

Several searches share one service.  Each of them goes through the same stages: it is planned against the catalog of
that moment, it looks for outcomes that were kept, it is put to the indexers if there are none, and then it keeps what
they found.  Between two stages anything else may happen.  `Traffic` is the service with all its searches, `step` one
event and `run` a sequence of them in any order.

The stages are those of `Aggregator.carryOut`: `carryOut_eq` says that a search that nothing comes between is just
these stages in a row, and `fanOut_gathers` that whatever the indexers do, what they find together is what some
replies come to.
-/

namespace MetaSearch

variable {σ : Type}

/-- What the searchers of a plan find together when they reply so. -/
def SearchPlan.gathered (p : SearchPlan σ) (deadline : Binary64) (replies : List Reply) : Merged :=
  Merged.ofOutcomes (List.zipWith (fun s r => s.settle deadline r) p.searchers replies)

/-! ## The stages of one search -/

/-- A search that nothing comes between is its stages in a row. -/
theorem carryOut_eq (a : Aggregator σ) (p : SearchPlan σ) (s : σ) :
    (a.carryOut p).run s =
      match (a.retrieve p).run s with
      | (some m, s) => (Aggregator.page p m true, s)
      | (none, s) =>
        let (m, s) := (fanOut p.searchers a.deadline p.query).run s
        (Aggregator.page p m false, ((a.keep p m).run s).2) := by
  simp only [Aggregator.carryOut, bind, StateT.bind, StateT.run]
  rcases a.retrieve p s with ⟨_ | m, s'⟩ <;> rfl

/-- Whatever a searcher does, it comes to what some reply comes to. -/
theorem exists_reply (x : Searcher σ) (deadline : Binary64) (query : Query) (s : σ) :
    ∃ reply : Reply, ((x.search deadline query).run s).1 = x.settle deadline reply := by
  simp only [Searcher.search]
  split
  · exact ⟨.late, rfl⟩
  · exact ⟨((x.ask query).run s).1, rfl⟩

/-- Whatever the searchers of a plan do, they find what some replies come to. -/
theorem fanOut_gathers (p : SearchPlan σ) (deadline : Binary64) (s : σ) :
    ∃ replies : List Reply, replies.length = p.searchers.length ∧
      ((fanOut p.searchers deadline p.query).run s).1 = p.gathered deadline replies := by
  have houtcomes : ∀ (searchers : List (Searcher σ)) (s : σ), ∃ replies : List Reply,
      replies.length = searchers.length ∧
        ((searchers.mapM fun x : Searcher σ => x.search deadline p.query).run s).1 =
          List.zipWith (fun x r => x.settle deadline r) searchers replies := by
    intro searchers
    induction searchers with
    | nil => exact fun s => ⟨[], rfl, rfl⟩
    | cons x rest ih =>
        intro s
        obtain ⟨reply, hreply⟩ := exists_reply x deadline p.query s
        obtain ⟨replies, hlength, hreplies⟩ := ih ((x.search deadline p.query).run s).2
        refine ⟨reply :: replies, by simp [hlength], ?_⟩
        rw [List.mapM_cons, List.zipWith_cons_cons, ← hreply, ← hreplies]
        rfl
  obtain ⟨replies, hlength, hreplies⟩ := houtcomes p.searchers s
  exact ⟨replies, hlength, congrArg Merged.ofOutcomes hreplies⟩

/-- What the service reads from what it keeps. -/
theorem read_run (s : Service σ) (clock : Int) (key : String) :
    ((Service.keeping clock).read key).run s =
      ((s.store.get key clock).1.map fun m => m.map .merged, { s with store := (s.store.get key clock).2 }) :=
  rfl

/-- What becomes of what the service keeps when something is added. -/
theorem write_run (s : Service σ) (clock : Int) (key : String) (m : Merged) (lifetime : Int) :
    ((Service.keeping clock).write key m lifetime).run s =
      match s.store.set key m (some lifetime) clock with
      | .ok store => (.ok (), { s with store })
      | .error f => (.error f, s) := by
  change (match s.store.set key m (some lifetime) clock with
    | .ok store => (do
      set { s with store }
      return .ok () : StateM (Service σ) (Except Fault Unit))
    | .error f => pure (.error f)).run s = _
  cases s.store.set key m (some lifetime) clock <;> rfl

/-- What a search finds among the outcomes that the service keeps in memory. -/
theorem recall_run {s : Service σ} {memory : Cache.Memory Merged} (hs : s.store = .memory memory) (clock : Int)
    (p : SearchPlan (Service σ)) :
    ((Service.aggregator s.config clock).retrieve p).run s =
      if p.inquiry.fresh = false ∧ 0 < s.config.cache.lifetime then
        ((memory.get p.key clock).1, { s with store := .memory (memory.get p.key clock).2 })
      else (none, s) := by
  by_cases hfresh : p.inquiry.fresh = true
  · simp only [Aggregator.retrieve, hfresh]
    rfl
  · by_cases hlifetime : 0 < s.config.cache.lifetime
    · simp only [Aggregator.retrieve, hfresh, Aggregator.activeCache, Service.aggregator, hlifetime]
      cases hget : memory.get p.key clock with
      | mk found memory' =>
          have hread : ((Service.keeping clock).read p.key).run s =
              (.ok (found.map .merged), { s with store := .memory memory' }) := by
            rw [read_run, hs, Cache.Store.get, hget]
            rfl
          simp only [Bool.false_eq_true, if_false, if_true, StateT.run_bind, hread, and_self]
          cases found <;> rfl
    · simp only [Aggregator.retrieve, hfresh, Aggregator.activeCache, Service.aggregator, hlifetime]
      rfl

/-- What becomes of the memory of the service when a search keeps what was found for it. -/
theorem keep_run {s : Service σ} {memory : Cache.Memory Merged} (hs : s.store = .memory memory) (clock : Int)
    (p : SearchPlan (Service σ)) (m : Merged) :
    ((Service.aggregator s.config clock).keep p m).run s =
      if 0 < s.config.cache.lifetime ∧ m.hasSuccess = true then
        ((), { s with store := .memory (memory.set p.key m (some s.config.cache.lifetime) clock) })
      else ((), s) := by
  by_cases hlifetime : 0 < s.config.cache.lifetime
  · simp only [Aggregator.keep, Aggregator.activeCache, Service.aggregator, hlifetime, true_and, if_true]
    by_cases hm : m.hasSuccess = true
    · have hwrite : ((Service.keeping clock).write p.key m s.config.cache.lifetime).run s =
          (.ok (), { s with store := .memory (memory.set p.key m (some s.config.cache.lifetime) clock) }) := by
        rw [write_run, hs]
        rfl
      simp only [hm, if_true, StateT.run_bind, hwrite]
      rfl
    · simp only [hm]
      rfl
  · simp only [Aggregator.keep, Aggregator.activeCache, Service.aggregator, hlifetime]
    rfl

/-! ## Several searches -/

/-- How a search was answered. -/
structure Answered (σ : Type) where
  plan : SearchPlan σ
  page : ResultPage
  /-- When it was answered. -/
  time : Int
  /-- What its own indexers found; none where it was answered from what had been kept. -/
  own : Option Merged

/-- How far a search has come. -/
inductive Stage (σ : Type) where
  | waiting
  | planned (p : SearchPlan σ)
  /-- Nothing was kept for it. -/
  | missed (p : SearchPlan σ)
  /-- Its indexers have replied. -/
  | gathered (p : SearchPlan σ) (m : Merged)
  | answered (a : Answered σ)

/-- A service and the searches that are put to it, by number. -/
structure Traffic (σ : Type) where
  service : Service σ
  /-- The reading of the clock. -/
  clock : Int
  stage : Nat → Stage (Service σ)

/-- What may happen next. -/
inductive TrafficEvent (σ : Type) where
  /-- The clock goes on. -/
  | tick (now : Int)
  /-- Definitions are loaded anew, and the network comes into another state. -/
  | change (registry : Registry) (network : σ)
  /-- A search is put to the indexers that are there. -/
  | start (i : Nat) (available : List (Searcher (Service σ))) (form : SearchForm)
  | retrieve (i : Nat)
  | gather (i : Nat) (replies : List Reply)
  | keep (i : Nat)

namespace Traffic

/-- How the service puts searches together at the moment. -/
def aggregator (t : Traffic σ) : Aggregator (Service σ) :=
  Service.aggregator t.service.config t.clock

/-- The traffic with one search come further. -/
def advance (t : Traffic σ) (i : Nat) (stage : Stage (Service σ)) : Traffic σ :=
  { t with stage := Function.update t.stage i stage }

/-- One event; none where it cannot happen. -/
def step (t : Traffic σ) : TrafficEvent σ → Option (Traffic σ)
  | .tick now => if t.clock ≤ now then some { t with clock := now } else none
  | .change registry network => some { t with service := { t.service with registry, network } }
  | .start i available form =>
    match t.stage i, t.aggregator.plan available form with
    | .waiting, .ok p => some (t.advance i (.planned p))
    | _, _ => none
  | .retrieve i =>
    match t.stage i with
    | .planned p =>
      let (kept, service) := (t.aggregator.retrieve p).run t.service
      some ({ t with service }.advance i (match kept with
        | some m => .answered ⟨p, Aggregator.page p m true, t.clock, none⟩
        | none => .missed p))
    | _ => none
  | .gather i replies =>
    match t.stage i with
    | .missed p =>
      if replies.length = p.searchers.length then
        some (t.advance i (.gathered p (p.gathered t.service.config.search.deadline replies)))
      else none
    | _ => none
  | .keep i =>
    match t.stage i with
    | .gathered p m =>
      let service := ((t.aggregator.keep p m).run t.service).2
      some ({ t with service }.advance i (.answered ⟨p, Aggregator.page p m false, t.clock, some m⟩))
    | _ => none

/-- Events one after the other. -/
def run (t : Traffic σ) (events : List (TrafficEvent σ)) : Option (Traffic σ) :=
  events.foldlM step t

/-- Nothing is kept in memory yet, and no search has begun. -/
structure Fresh (t : Traffic σ) : Prop where
  store : ∃ memory : Cache.Memory Merged, t.service.store = .memory memory ∧ memory.entries = []
  stage : ∀ i, t.stage i = .waiting

/-- Events after events. -/
theorem run_cons (t : Traffic σ) (e : TrafficEvent σ) (events : List (TrafficEvent σ)) :
    t.run (e :: events) = (t.step e).bind fun t => t.run events :=
  rfl

/-- Events after other events. -/
theorem run_append (t : Traffic σ) (first second : List (TrafficEvent σ)) :
    t.run (first ++ second) = (t.run first).bind fun t => t.run second :=
  List.foldlM_append

/-- A search begins. -/
theorem step_start {t : Traffic σ} {i : Nat} {available : List (Searcher (Service σ))} {form : SearchForm}
    {p : SearchPlan (Service σ)} (hi : t.stage i = .waiting) (hplan : t.aggregator.plan available form = .ok p) :
    t.step (.start i available form) = some (t.advance i (.planned p)) := by
  simp only [step, hi, hplan]

/-- A search finds outcomes that were kept. -/
theorem step_recall_found {t : Traffic σ} {i : Nat} {p : SearchPlan (Service σ)} {m : Merged} {service : Service σ}
    (hi : t.stage i = .planned p) (hrecall : (t.aggregator.retrieve p).run t.service = (some m, service)) :
    t.step (.retrieve i) =
      some ({ t with service }.advance i (.answered ⟨p, Aggregator.page p m true, t.clock, none⟩)) := by
  simp only [step, hi, hrecall]

/-- **What an event can do.**  Every event that touches a search takes it one stage further, and the service changes by
what that stage does to it. -/
theorem step_cases {t t' : Traffic σ} {e : TrafficEvent σ} (h : t.step e = some t') :
    (∃ now, t.clock ≤ now ∧ t' = { t with clock := now }) ∨
    (∃ registry network, t' = { t with service := { t.service with registry, network } }) ∨
    (∃ i available form p, e = .start i available form ∧ t.stage i = .waiting ∧
      t.aggregator.plan available form = .ok p ∧ t' = t.advance i (.planned p)) ∨
    (∃ i p m service, t.stage i = .planned p ∧ (t.aggregator.retrieve p).run t.service = (some m, service) ∧
      t' = { t with service }.advance i (.answered ⟨p, Aggregator.page p m true, t.clock, none⟩)) ∨
    (∃ i p service, t.stage i = .planned p ∧ (t.aggregator.retrieve p).run t.service = (none, service) ∧
      t' = { t with service }.advance i (.missed p)) ∨
    (∃ i p replies, e = .gather i replies ∧ t.stage i = .missed p ∧ replies.length = p.searchers.length ∧
      t' = t.advance i (.gathered p (p.gathered t.service.config.search.deadline replies))) ∨
    (∃ i p m service, t.stage i = .gathered p m ∧ service = ((t.aggregator.keep p m).run t.service).2 ∧
      t' = { t with service }.advance i (.answered ⟨p, Aggregator.page p m false, t.clock, some m⟩)) := by
  cases e with
  | tick now =>
      simp only [step] at h
      split at h
      · rename_i hle
        exact .inl ⟨now, hle, by simpa using h.symm⟩
      · simp at h
  | change registry network => exact .inr (.inl ⟨registry, network, by simpa [step] using h.symm⟩)
  | start i available form =>
      simp only [step] at h
      split at h
      · rename_i p hstage hplan
        exact .inr (.inr (.inl ⟨i, available, form, p, rfl, hstage, hplan, by simpa using h.symm⟩))
      · simp at h
  | retrieve i =>
      simp only [step] at h
      split at h
      · rename_i p hstage
        cases hrun : (t.aggregator.retrieve p).run t.service with
        | mk kept service =>
            rw [hrun] at h
            cases kept with
            | some m => exact .inr (.inr (.inr (.inl ⟨i, p, m, service, hstage, hrun, by simpa using h.symm⟩)))
            | none => exact .inr (.inr (.inr (.inr (.inl ⟨i, p, service, hstage, hrun, by simpa using h.symm⟩))))
      · simp at h
  | gather i replies =>
      simp only [step] at h
      split at h
      · rename_i p hstage
        split at h
        · rename_i hlength
          exact .inr (.inr (.inr (.inr (.inr (.inl ⟨i, p, replies, rfl, hstage, hlength, by simpa using h.symm⟩)))))
        · simp at h
      · simp at h
  | keep i =>
      simp only [step] at h
      split at h
      · rename_i p m hstage
        exact .inr (.inr (.inr (.inr (.inr (.inr ⟨i, p, m, _, hstage, rfl, by simpa using h.symm⟩)))))
      · simp at h

end Traffic

end MetaSearch
