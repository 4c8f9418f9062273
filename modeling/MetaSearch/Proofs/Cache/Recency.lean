import MetaSearch.Proofs.Cache.Contents
import MetaSearch.Proofs.Sequence.Distinct

/-!
# The newest writes stay

A cache in memory after any operations at any times, told by their history alone.

* `recency` lists the keys of a history by their last writes, and `lastWrite?` is the last write of one key.
* `Memory.Follows` is the invariant: the held keys are some of those, in that order, each with what was written last.
  Reads, deletions and sweeps only take entries away (`Follows.of_sublist`), and a write puts its own key in front of
  all others (`keys_set`).
* `Memory.keeps_newest` says what comes of it: a write keeps as many of the newest keys as there is room for, and a
  read finds the last write until it is stale.
-/

namespace MetaSearch.Cache

/-- What can be done to a cache. -/
inductive Operation (α : Type) where
  | set (key : String) (value : α) (lifetime : Option Int)
  | get (key : String)
  | has (key : String)
  | delete (key : String)
  | clear

variable {α : Type}

/-- The key that an operation writes. -/
def Operation.written? : Operation α → Option String
  | set key _ _ => some key
  | _ => none

/-- What an operation writes under a key: the value and the lifetime that it is given. -/
def Operation.write? (key : String) : Operation α → Option (α × Option Int)
  | set k value lifetime => if k = key then some (value, lifetime) else none
  | _ => none

/-- The keys of a history in the order of their last writes, the newest first. -/
def recency (past : List (Int × Operation α)) : List String :=
  (past.filterMap fun (_, op) => op.written?).reverse.eraseDups

/-- The last write of a key in a history: its time, the value and the lifetime that it was given. -/
def lastWrite? (key : String) (past : List (Int × Operation α)) : Option (Int × α × Option Int) :=
  past.reverse.findSome? fun (now, op) => (op.write? key).map (now, ·)

theorem nodup_recency (past : List (Int × Operation α)) : (recency past).Nodup :=
  nodup_eraseDups _

section Append

variable {past : List (Int × Operation α)} {now : Int} {op : Operation α}

/-- What writes nothing leaves the order of the keys. -/
theorem recency_append_of_none (h : op.written? = none) : recency (past ++ [(now, op)]) = recency past := by
  simp [recency, h]

/-- A key that is written comes first, and the others keep their order. -/
theorem recency_append_set (key : String) (value : α) (lifetime : Option Int) :
    recency (past ++ [(now, .set key value lifetime)]) = key :: (recency past).filter (· != key) := by
  have hkeys : (past ++ [(now, Operation.set key value lifetime)]).filterMap (fun (_, op) => op.written?) =
      past.filterMap (fun (_, op) => op.written?) ++ [key] :=
    List.filterMap_append
  rw [recency, hkeys, List.reverse_append, List.reverse_singleton, List.singleton_append, List.eraseDups_cons,
    eraseDups_filter]
  rfl

/-- What writes nothing under a key leaves its last write. -/
theorem lastWrite?_append_of_none {key : String} (h : op.write? key = none) :
    lastWrite? key (past ++ [(now, op)]) = lastWrite? key past := by
  simp [lastWrite?, h]

/-- A write is the last one of its key. -/
theorem lastWrite?_append_set (key : String) (value : α) (lifetime : Option Int) :
    lastWrite? key (past ++ [(now, .set key value lifetime)]) = some (now, value, lifetime) := by
  simp [lastWrite?, Operation.write?]

/-- What writes no key writes nothing under any. -/
theorem Operation.write?_of_written? (h : op.written? = none) (key : String) : op.write? key = none := by
  cases op <;> first | rfl | cases h

end Append

namespace Memory

/-- The keys that are held, stale ones among them, in the order of their writes. -/
def keys (m : Memory α) : List String :=
  m.entries.map (·.key)

/-- Whether a value that is not stale is held under a key. -/
def holds (key : String) (now : Int) (m : Memory α) : Bool :=
  (Cache.written? key m.entries).any (·.isLive now)

/-- A cache after an operation. -/
def perform (now : Int) (m : Memory α) : Operation α → Memory α
  | .set key value lifetime => m.set key value lifetime now
  | .get key => (m.get key now).2
  | .has key => (m.has key now).2
  | .delete key => (m.delete key).2
  | .clear => m.clear

/-- A cache after operations one after the other, each with the reading of the clock. -/
def run (m : Memory α) (past : List (Int × Operation α)) : Memory α :=
  past.foldl (fun m (now, op) => m.perform now op) m

/-- What is held comes from a history: its keys in the order of their last writes, each with what was written last. -/
structure Follows (past : List (Int × Operation α)) (m : Memory α) : Prop where
  newest : m.keys.reverse.Sublist (recency past)
  written : ∀ e ∈ m.entries, ∃ time lifetime, lastWrite? e.key past = some (time, e.value, lifetime) ∧
    e.expiry = time + lifetime.getD m.lifetime
  size : m.size ≤ m.capacity

section Follows

variable {past : List (Int × Operation α)} {m : Memory α}

/-- No key is held twice. -/
theorem Follows.nodup (h : m.Follows past) : m.keys.Nodup :=
  List.nodup_reverse.mp ((nodup_recency past).sublist h.newest)

/-- Where no key is held twice, an entry is what is found under its key. -/
theorem written?_eq_some {entries : List (Entry α)} (hnodup : (entries.map (·.key)).Nodup) {e : Entry α}
    (he : e ∈ entries) : Cache.written? e.key entries = some e := by
  induction entries with
  | nil => cases he
  | cons first rest ih =>
      rw [List.map_cons, List.nodup_cons] at hnodup
      obtain ⟨hfirst, hrest⟩ := hnodup
      rcases List.mem_cons.mp he with rfl | he
      · simp [Cache.written?]
      · have hne : first.key ≠ e.key := by
          intro heq
          rw [heq] at hfirst
          exact hfirst (List.mem_map_of_mem he)
        have hfound := ih hrest he
        simpa [Cache.written?, hne] using hfound

/-- A key under which something is found is held. -/
theorem key_mem_of_written? {key : String} {e : Entry α} (h : Cache.written? key m.entries = some e) :
    e ∈ m.entries ∧ e.key = key :=
  ⟨List.mem_of_find?_eq_some h, by simpa using List.find?_some h⟩

/-- A cache that holds less comes from the same history. -/
theorem Follows.of_sublist (h : m.Follows past) {m' : Memory α} (hentries : m'.entries.Sublist m.entries)
    (hlifetime : m'.lifetime = m.lifetime) (hcapacity : m'.capacity = m.capacity) : m'.Follows past where
  newest := ((hentries.map _).reverse).trans h.newest
  written e he := by
    rw [hlifetime]
    exact h.written e (hentries.subset he)
  size := by
    rw [hcapacity]
    exact Nat.le_trans hentries.length_le h.size

/-- What is not written adds nothing to what a cache comes from. -/
theorem Follows.append (h : m.Follows past) {op : Operation α} (hop : op.written? = none) (now : Int) :
    m.Follows (past ++ [(now, op)]) where
  newest := by
    rw [recency_append_of_none hop]
    exact h.newest
  written e he := by
    rw [lastWrite?_append_of_none (Operation.write?_of_written? hop e.key)]
    exact h.written e he
  size := h.size

/-- A read leaves what is held, but for what it finds stale. -/
theorem get_cases (key : String) (now : Int) (m : Memory α) :
    (m.get key now).2 = m ∨ (m.get key now).2 = { m with entries := without key m.entries } := by
  simp only [get]
  split
  · exact .inl rfl
  · split
    · exact .inl rfl
    · exact .inr rfl

theorem Follows.drop_key (h : m.Follows past) (key : String) :
    Follows past { m with entries := without key m.entries } :=
  h.of_sublist List.filter_sublist rfl rfl

theorem Follows.read (h : m.Follows past) (key : String) (now : Int) : (m.get key now).2.Follows past := by
  rcases get_cases key now m with heq | heq
  · rw [heq]
    exact h
  · rw [heq]
    exact h.drop_key key

/-- What a cache holds under keys that are not stale and not a given one is some of the newest. -/
theorem Follows.filter_keys (h : m.Follows past) (key : String) (now : Int) :
    (without key (m.entries.filter (·.isLive now))).map (·.key) = m.keys.filter fun k => k != key && m.holds k now := by
  rw [Cache.without, List.filter_filter, keys, List.filter_map]
  refine congrArg (List.map _) (List.filter_congr fun e he => ?_)
  rw [Function.comp_apply, holds, written?_eq_some h.nodup he]
  rfl

/-- **A write keeps the newest keys.**  Those that are held and not stale, and the written one in front of them, stay as
long as there is room. -/
theorem Follows.keys_set (h : m.Follows past) (key : String) (value : α) (lifetime : Option Int) (now : Int) :
    (m.set key value lifetime now).keys.reverse =
      ((recency (past ++ [(now, .set key value lifetime)])).filter fun k => k == key || m.holds k now).take
        m.capacity := by
  -- of the other keys, those that stay are the same whether they are read off the cache or off the history
  have hothers : (m.keys.filter fun k => k != key && m.holds k now).reverse =
      ((recency past).filter (· != key)).filter fun k => k == key || m.holds k now := by
    have hheld : ∀ k ∈ recency past, (k != key && m.holds k now) = true → k ∈ m.keys.reverse := by
      intro k _ hk
      obtain ⟨e, he⟩ : ∃ e, Cache.written? k m.entries = some e := by
        cases hfound : Cache.written? k m.entries with
        | none => simp [holds, hfound] at hk
        | some e => exact ⟨e, rfl⟩
      obtain ⟨hmem, rfl⟩ := key_mem_of_written? he
      exact List.mem_reverse.mpr (List.mem_map_of_mem hmem)
    rw [← List.filter_reverse, filter_eq_of_sublist h.newest (nodup_recency past) hheld, List.filter_filter]
    refine List.filter_congr fun k _ => ?_
    cases hk : k == key
    · simp only [bne, hk, Bool.false_or, Bool.not_false, Bool.true_and, Bool.and_true]
    · simp only [bne, hk, Bool.not_true, Bool.false_and, Bool.and_false]
  have hkeys : (m.set key value lifetime now).keys =
      ((m.keys.filter fun k => k != key && m.holds k now) ++ [key]).drop
        ((m.keys.filter fun k => k != key && m.holds k now).length + 1 - m.capacity) := by
    rw [← h.filter_keys key now]
    simp [keys, set]
  have hfirst : ∀ rest : List String, (key :: rest).filter (fun k => k == key || m.holds k now) =
      key :: rest.filter fun k => k == key || m.holds k now := by
    intro rest
    simp
  rw [hkeys, List.reverse_drop, List.reverse_append, List.reverse_singleton, List.singleton_append, hothers,
    recency_append_set, hfirst, List.take_eq_take_iff]
  simp only [List.length_append, List.length_cons, List.length_nil, ← hothers, List.length_reverse]
  omega

/-- A cache comes from its history with a write when it is written to. -/
theorem Follows.write (h : m.Follows past) (key : String) (value : α) (lifetime : Option Int) (now : Int) :
    (m.set key value lifetime now).Follows (past ++ [(now, .set key value lifetime)]) where
  newest := by
    rw [h.keys_set]
    exact (List.take_sublist _ _).trans List.filter_sublist
  written e he := by
    rcases other_or_new_of_mem_set he with ⟨hold, hne⟩ | rfl
    · have hnone : (Operation.set key value lifetime).write? e.key = none := if_neg (Ne.symm hne)
      rw [lastWrite?_append_of_none hnone]
      exact h.written e hold
    · exact ⟨now, lifetime, lastWrite?_append_set key value lifetime, rfl⟩
  size := size_set_le key value lifetime now m

/-- **No operation breaks the invariant.** -/
theorem Follows.perform (h : m.Follows past) (now : Int) (op : Operation α) :
    (m.perform now op).Follows (past ++ [(now, op)]) := by
  cases op with
  | set key value lifetime => exact h.write key value lifetime now
  | get key => exact (h.read key now).append rfl now
  | has key => exact (h.read key now).append rfl now
  | delete key => exact (h.drop_key key).append rfl now
  | clear =>
      have hempty : m.clear.Follows past := h.of_sublist (List.nil_sublist _) rfl rfl
      exact hempty.append rfl now

/-- The invariant holds after any operations. -/
theorem Follows.run (h : m.Follows past) (later : List (Int × Operation α)) :
    (m.run later).Follows (past ++ later) := by
  induction later generalizing m past with
  | nil =>
      rw [List.append_nil]
      exact h
  | cons first later ih =>
      rw [List.append_cons]
      exact ih (h.perform first.1 first.2)

/-- What a read finds is the last write of its key, while that is held and not stale. -/
theorem Follows.get_eq_some_iff (h : m.Follows past) {key : String} {now : Int} {value : α} :
    (m.get key now).1 = some value ↔
      key ∈ m.keys ∧ ∃ time lifetime, lastWrite? key past = some (time, value, lifetime) ∧
        now < time + lifetime.getD m.lifetime := by
  constructor
  · intro hget
    obtain ⟨e, he, rfl, rfl, hlive⟩ := exists_entry_of_get hget
    obtain ⟨time, lifetime, hlast, hexpiry⟩ := h.written e he
    exact ⟨List.mem_map_of_mem he, time, lifetime, hlast, hexpiry ▸ hlive⟩
  · rintro ⟨hkey, time, lifetime, hlast, hlive⟩
    obtain ⟨e, he, rfl⟩ := List.mem_map.mp hkey
    obtain ⟨time', lifetime', hlast', hexpiry⟩ := h.written e he
    obtain ⟨rfl, rfl, rfl⟩ : time = time' ∧ value = e.value ∧ lifetime = lifetime' := by
      simpa using hlast.symm.trans hlast'
    have hnow : e.isLive now = true := by
      rw [Entry.isLive, hexpiry, decide_eq_true_iff]
      exact hlive
    simp only [Memory.get, written?_eq_some h.nodup he, hnow, if_true]

/-- A value is held under a key exactly when the last write of the key is held and not stale. -/
theorem Follows.has_iff (h : m.Follows past) {key : String} {now : Int} :
    (m.has key now).1 = true ↔
      key ∈ m.keys ∧ ∃ time value lifetime, lastWrite? key past = some (time, value, lifetime) ∧
        now < time + lifetime.getD m.lifetime := by
  have hfound : (m.has key now).1 = true ↔ ∃ value, (m.get key now).1 = some value := Option.isSome_iff_exists
  rw [hfound]
  constructor
  · rintro ⟨value, hvalue⟩
    obtain ⟨hkey, time, lifetime, hlast⟩ := h.get_eq_some_iff.mp hvalue
    exact ⟨hkey, time, value, lifetime, hlast⟩
  · rintro ⟨hkey, time, value, lifetime, hlast⟩
    exact ⟨value, h.get_eq_some_iff.mpr ⟨hkey, time, lifetime, hlast⟩⟩

end Follows

/-- A read takes nothing away but the key that it finds stale, and leaves the others in their order. -/
theorem keys_get (key : String) (now : Int) (m : Memory α) :
    (m.get key now).2.keys = if m.holds key now then m.keys else m.keys.filter (· != key) := by
  cases hfound : Cache.written? key m.entries with
  | none =>
      have hnone : ∀ k ∈ m.keys, (k != key) = true := by
        intro k hk
        obtain ⟨e, he, rfl⟩ := List.mem_map.mp hk
        simpa [Cache.written?] using List.find?_eq_none.mp hfound e he
      have hheld : m.holds key now = false := by rw [holds, hfound]; rfl
      simp only [get, hfound, hheld, Bool.false_eq_true, if_false]
      exact (List.filter_eq_self.mpr hnone).symm
  | some e =>
      have hheld : m.holds key now = e.isLive now := by rw [holds, hfound]; rfl
      cases hlive : e.isLive now with
      | true => simp only [get, hfound, hheld, hlive, if_true]
      | false =>
          simp only [get, hfound, hheld, hlive, Bool.false_eq_true, if_false, keys, Cache.without, List.filter_map]
          rfl

/-- An operation leaves how long values last and how many there is room for. -/
theorem perform_bounds (now : Int) (m : Memory α) (op : Operation α) :
    (m.perform now op).lifetime = m.lifetime ∧ (m.perform now op).capacity = m.capacity := by
  have hread : ∀ key, (m.get key now).2.lifetime = m.lifetime ∧ (m.get key now).2.capacity = m.capacity := by
    intro key
    rcases get_cases key now m with heq | heq
    · rw [heq]
      exact ⟨rfl, rfl⟩
    · rw [heq]
      exact ⟨rfl, rfl⟩
  cases op with
  | set key value lifetime => exact ⟨rfl, rfl⟩
  | get key => exact hread key
  | has key => exact hread key
  | delete key => exact ⟨rfl, rfl⟩
  | clear => exact ⟨rfl, rfl⟩

/-- How long values last and how many there is room for never changes. -/
theorem run_bounds (m : Memory α) (past : List (Int × Operation α)) :
    (m.run past).lifetime = m.lifetime ∧ (m.run past).capacity = m.capacity := by
  induction past generalizing m with
  | nil => exact ⟨rfl, rfl⟩
  | cons first past ih =>
      obtain ⟨hlifetime, hcapacity⟩ := ih (m.perform first.1 first.2)
      obtain ⟨hfirst, hroom⟩ := perform_bounds first.1 m first.2
      exact ⟨hlifetime.trans hfirst, hcapacity.trans hroom⟩

/-- A cache comes from all that was done to it since it was empty. -/
theorem follows_run (lifetime : Int) (capacity : Nat) (past : List (Int × Operation α)) :
    (Memory.run { lifetime, capacity } past).Follows past := by
  have hempty : ({ lifetime, capacity } : Memory α).Follows [] :=
    ⟨List.nil_sublist _, by simp, Nat.zero_le _⟩
  simpa using hempty.run past

/-- **A bounded cache keeps its newest writes.**  After any operations at any times no key is held twice, and there are
no more of them than there is room for.  A write keeps the newest of the keys that are held and not stale, and its own
in front of them, as many as there is room for; so no stale value stays but one that is written stale.  Reads take
nothing away but what they find stale, and they find the last write of a key exactly while it is held and not stale. -/
theorem keeps_newest {lifetime : Int} {capacity : Nat} (hcapacity : 1 ≤ capacity) {past : List (Int × Operation α)}
    {m : Memory α} (hrun : Memory.run { lifetime, capacity } past = m) :
    m.keys.Nodup ∧ m.size ≤ capacity ∧
    (∀ key value given now,
      (m.set key value given now).keys.reverse =
        ((recency (past ++ [(now, .set key value given)])).filter fun k => k == key || m.holds k now).take capacity ∧
      (m.set key value given now).keys.getLast? = some key ∧
      ∀ e ∈ (m.set key value given now).entries, e.key = key ∨ e.isLive now = true) ∧
    (∀ key now,
      (m.get key now).2.keys = (if m.holds key now then m.keys else m.keys.filter (· != key)) ∧
      (m.has key now).2 = (m.get key now).2) ∧
    ∀ key now,
      (∀ value, (m.get key now).1 = some value ↔
        key ∈ m.keys ∧ ∃ time given, lastWrite? key past = some (time, value, given) ∧
          now < time + given.getD lifetime) ∧
      ((m.has key now).1 = true ↔
        key ∈ m.keys ∧ ∃ time value given, lastWrite? key past = some (time, value, given) ∧
          now < time + given.getD lifetime) := by
  have hfollows : m.Follows past := hrun ▸ follows_run lifetime capacity past
  obtain ⟨hlifetime, hroom⟩ : m.lifetime = lifetime ∧ m.capacity = capacity :=
    hrun ▸ run_bounds { lifetime, capacity } past
  refine ⟨hfollows.nodup, hroom ▸ hfollows.size, fun key value given now => ⟨?_, ?_, fun e he => ?_⟩,
    fun key now => ⟨keys_get key now m, rfl⟩, fun key now => ⟨fun value => ?_, ?_⟩⟩
  · rw [← hroom]
    exact hfollows.keys_set key value given now
  · have hfront := congrArg List.head? (hfollows.keys_set key value given now)
    rw [List.head?_reverse, List.head?_take, recency_append_set, if_neg (by omega)] at hfront
    simpa using hfront
  · rcases List.mem_append.mp (List.mem_of_mem_drop he) with hkept | hnew
    · exact .inr (List.mem_filter.mp (mem_without.mp hkept).1).2
    · exact .inl (congrArg Entry.key (List.mem_singleton.mp hnew))
  · rw [← hlifetime]
    exact hfollows.get_eq_some_iff
  · rw [← hlifetime]
    exact hfollows.has_iff

/-- Three writes, one of them again, and a read of what has become stale meanwhile, where there is room for two. -/
def busyPast : List (Int × Operation Nat) :=
  [(0, .set "a" 1 (some 5)), (1, .set "b" 2 none), (2, .set "a" 3 none), (3, .set "c" 4 (some 1)), (4, .get "c")]

/-- What is left of them is the second value of the key that was written again. -/
theorem keeps_newest_busyPast :
    (Memory.run { lifetime := 10, capacity := 2 } busyPast).keys = ["a"] ∧
    ((Memory.run { lifetime := 10, capacity := 2 } busyPast).get "a" 11).1 = some 3 := by
  obtain ⟨-, -, -, -, hreads⟩ :=
    keeps_newest (by decide) (rfl : Memory.run { lifetime := 10, capacity := 2 } busyPast = _)
  exact ⟨by decide, ((hreads "a" 11).1 3).mpr ⟨by decide, 2, none, by decide, by decide⟩⟩

/-- A value that is written stale takes the room of one that is not: the other is not stale, and is gone nevertheless,
while the stale one is held. -/
theorem stale_write_evicts :
    (Memory.run { capacity := 1 } [(0, .set "a" 1 (some 100))]).holds "a" 1 = true ∧
    (Memory.run { capacity := 1 } [(0, .set "a" 1 (some 100)), (1, .set "b" 2 (some 0))]).keys = ["b"] ∧
    (Memory.run { capacity := 1 } [(0, .set "a" 1 (some 100)), (1, .set "b" 2 (some 0))]).holds "b" 1 = false := by
  decide

end Memory

end MetaSearch.Cache
