import Mathlib.Data.List.Induction
import MetaSearch.Cache.Store
import MetaSearch.Proofs.Cache.Recency

/-!
# One cache for another

A cache in memory and one on disk answer the same operations alike, as long as the one in memory has room: whatever is
not stale is in both of them or in neither (`Alike`).  What is stale goes at different times.  On disk it stays until its
key is written again, and counts as nothing; in memory it stays until something touches it, and a deletion that meets it
says that there was a value.

* `Memory.mem_perform_iff` and `Disk.mem_perform_iff` say of each operation what it takes out of either cache, and what it
  puts in.
* `Alike.perform` keeps the two caches alike from one operation to the next, and `alike_run` from the empty caches on.
* `Memory.mem_run_iff` tells from the history what is in memory, stale or not.
* `Store.same_answers_iff` is what comes of it: all answers are the same, unless a key is deleted whose value lingers.
-/

namespace MetaSearch.Cache

variable {α : Type}

/-! ## Operations on a store -/

/-- What an operation answers. -/
inductive Reply (α : Type) where
  | done
  | value (found : Option α)
  | truth (b : Bool)
  | refused (f : Fault)
  deriving DecidableEq, Repr

namespace Store

/-- The answer of a store to an operation, and the store after it. -/
def perform (now : Int) (s : Store α) : Operation α → Reply α × Store α
  | .set key value lifetime =>
    match s.set key value lifetime now with
    | .ok s' => (.done, s')
    | .error f => (.refused f, s)
  | .get key =>
    match s.get key now with
    | (.ok found, s') => (.value found, s')
    | (.error f, s') => (.refused f, s')
  | .has key => (.truth (s.has key now).1, (s.has key now).2)
  | .delete key => (.truth (s.delete key now).1, (s.delete key now).2)
  | .clear => (.done, s.clear)

/-- A store after operations one after the other, each with the reading of the clock. -/
def run (s : Store α) (past : List (Int × Operation α)) : Store α :=
  past.foldl (fun s (now, op) => (s.perform now op).2) s

/-- The answers of a store to operations one after the other. -/
def replies (s : Store α) : List (Int × Operation α) → List (Reply α)
  | [] => []
  | (now, op) :: later => (s.perform now op).1 :: replies (s.perform now op).2 later

/-- Two stores give the same answers exactly when they do to each operation behind those before it. -/
theorem replies_eq_replies_iff {s t : Store α} {past : List (Int × Operation α)} :
    s.replies past = t.replies past ↔
      ∀ before now op after, past = before ++ (now, op) :: after →
        ((s.run before).perform now op).1 = ((t.run before).perform now op).1 := by
  induction past generalizing s t with
  | nil => simp [replies]
  | cons first past ih =>
      obtain ⟨time, first⟩ := first
      rw [replies, replies, List.cons.injEq, ih]
      constructor
      · rintro ⟨hfirst, hlater⟩ before now op after heq
        cases before with
        | nil =>
            obtain ⟨hop, -⟩ := List.cons.inj heq
            obtain ⟨rfl, rfl⟩ := Prod.mk.inj hop
            exact hfirst
        | cons x before =>
            obtain ⟨rfl, hrest⟩ := List.cons.inj heq
            exact hlater before now op after hrest
      · intro h
        refine ⟨h [] time first past rfl, fun before now op after heq => ?_⟩
        exact h ((time, first) :: before) now op after (by rw [heq]; rfl)

end Store

/-! ## What an operation does to the entries -/

/-- The entry that an operation writes. -/
def Operation.entry? (now lifetime : Int) : Operation α → Option (Entry α)
  | .set key value given => some ⟨key, value, now + given.getD lifetime⟩
  | _ => none

/-- An operation at a time takes an entry out of a cache in memory, room being left. -/
def Operation.Drops (now : Int) (e : Entry α) : Operation α → Prop
  | .set key _ _ => e.key = key ∨ e.expiry ≤ now
  | .get key => e.key = key ∧ e.expiry ≤ now
  | .has key => e.key = key ∧ e.expiry ≤ now
  | .delete key => e.key = key
  | .clear => True

/-- An operation at a time takes an entry out of a cache on disk. -/
def Operation.DropsStored (now : Int) (e : Entry α) : Operation α → Prop
  | .set key _ _ => e.key = key
  | .get _ => False
  | .has _ => False
  | .delete key => e.key = key ∧ now < e.expiry
  | .clear => True

/-- What is not stale is taken out of both by the same operations. -/
theorem Operation.drops_iff_of_live {now : Int} {e : Entry α} (h : now < e.expiry) (op : Operation α) :
    op.Drops now e ↔ op.DropsStored now e := by
  have hlive : ¬ e.expiry ≤ now := by omega
  cases op <;> simp [Drops, DropsStored, h, hlive]

/-- No two entries have one key. -/
def OwnKeys (entries : List (Entry α)) : Prop :=
  (entries.map (·.key)).Nodup

theorem OwnKeys.eq {entries : List (Entry α)} (h : OwnKeys entries) {e e' : Entry α} (he : e ∈ entries)
    (he' : e' ∈ entries) (hkey : e.key = e'.key) : e = e' :=
  List.inj_on_of_nodup_map h he he' hkey

theorem OwnKeys.sublist {entries kept : List (Entry α)} (h : OwnKeys entries) (hkept : kept.Sublist entries) :
    OwnKeys kept :=
  List.Nodup.sublist (hkept.map _) h

/-- A written entry behind those of other keys. -/
theorem OwnKeys.write {entries : List (Entry α)} (h : OwnKeys entries) (e : Entry α) :
    OwnKeys (without e.key entries ++ [e]) := by
  have hothers : OwnKeys (without e.key entries) := h.sublist List.filter_sublist
  rw [OwnKeys, List.map_append, List.nodup_append]
  refine ⟨hothers, List.nodup_singleton _, fun key hkey other hother heq => ?_⟩
  obtain ⟨e', he', rfl⟩ := List.mem_map.mp hkey
  have hne := (mem_without.mp he').2
  rw [List.mem_singleton.mp hother] at heq
  exact hne heq

/-- Where no two entries have one key, an entry is what is found under its key. -/
theorem OwnKeys.written?_eq_some_iff {entries : List (Entry α)} (h : OwnKeys entries) {key : String} {e : Entry α} :
    written? key entries = some e ↔ e ∈ entries ∧ e.key = key := by
  constructor
  · intro hfound
    exact ⟨List.mem_of_find?_eq_some hfound, by simpa using List.find?_some hfound⟩
  · rintro ⟨he, rfl⟩
    exact Memory.written?_eq_some h he

/-- What is found under a key and not stale. -/
theorem OwnKeys.live?_eq_some_iff {entries : List (Entry α)} (h : OwnKeys entries) {key : String} {now : Int}
    {e : Entry α} :
    (written? key entries).filter (·.isLive now) = some e ↔ e ∈ entries ∧ e.key = key ∧ now < e.expiry := by
  rw [Option.filter_eq_some_iff, h.written?_eq_some_iff, Entry.isLive, decide_eq_true_iff, and_assoc]

/-! ## The cache in memory -/

namespace Memory

/-- Whether there is room for what an operation writes beside all that stays. -/
def hasRoom (now : Int) (m : Memory α) : Operation α → Bool
  | .set key _ _ => (without key (m.entries.filter (·.isLive now))).length < m.capacity
  | _ => true

/-- Whether there is room for all that is written, so that nothing ever goes to make some. -/
def neverEvicts (m : Memory α) : List (Int × Operation α) → Bool
  | [] => true
  | (now, op) :: later => m.hasRoom now op && (m.perform now op).neverEvicts later

theorem neverEvicts_append (m : Memory α) (past later : List (Int × Operation α)) :
    m.neverEvicts (past ++ later) = (m.neverEvicts past && (m.run past).neverEvicts later) := by
  induction past generalizing m with
  | nil => rfl
  | cons first past ih =>
      rw [List.cons_append, neverEvicts, neverEvicts, ih, Bool.and_assoc]
      rfl

theorem neverEvicts_concat {m : Memory α} {past : List (Int × Operation α)} {now : Int} {op : Operation α} :
    m.neverEvicts (past ++ [(now, op)]) = true ↔ m.neverEvicts past = true ∧ (m.run past).hasRoom now op = true := by
  rw [neverEvicts_append, Bool.and_eq_true, neverEvicts, neverEvicts, Bool.and_true]

theorem run_concat (m : Memory α) (past : List (Int × Operation α)) (now : Int) (op : Operation α) :
    m.run (past ++ [(now, op)]) = (m.run past).perform now op := by
  rw [run, List.foldl_append]
  rfl

/-- A read finds what is written under the key and not stale. -/
theorem get_fst (key : String) (now : Int) (m : Memory α) :
    (m.get key now).1 = ((written? key m.entries).filter (·.isLive now)).map (·.value) := by
  rw [get]
  cases hfound : written? key m.entries with
  | none => rfl
  | some e => cases hlive : e.isLive now <;> simp [Option.filter, hlive]

/-- A read takes out what it finds stale. -/
theorem mem_get_iff {m : Memory α} (h : OwnKeys m.entries) {key : String} {now : Int} {e : Entry α} :
    e ∈ (m.get key now).2.entries ↔ e ∈ m.entries ∧ ¬ (e.key = key ∧ e.expiry ≤ now) := by
  cases hfound : written? key m.entries with
  | none =>
      have hno : ∀ e ∈ m.entries, e.key ≠ key := by
        intro e he
        simpa using List.find?_eq_none.mp hfound e he
      simp only [get, hfound]
      exact ⟨fun he => ⟨he, fun hstale => hno e he hstale.1⟩, And.left⟩
  | some found =>
      obtain ⟨hmem, hkey⟩ := h.written?_eq_some_iff.mp hfound
      have honly : ∀ e ∈ m.entries, e.key = key → e = found := by
        intro e he hsame
        exact h.eq he hmem (hsame.trans hkey.symm)
      simp only [get, hfound, Entry.isLive, decide_eq_true_eq]
      split
      · rename_i hlive
        refine ⟨fun he => ⟨he, fun hstale => ?_⟩, And.left⟩
        have hsame := honly e he hstale.1
        rw [hsame] at hstale
        omega
      · rename_i hstale
        rw [mem_without]
        refine and_congr_right fun he => ⟨fun hne hdropped => hne hdropped.1, fun hkept hsame => hkept ⟨hsame, ?_⟩⟩
        rw [honly e he hsame]
        omega

/-- **What an operation leaves in memory.**  That is what it does not take out, and what it writes. -/
theorem mem_perform_iff {m : Memory α} (h : OwnKeys m.entries) {now : Int} {op : Operation α}
    (hroom : m.hasRoom now op = true) {e : Entry α} :
    e ∈ (m.perform now op).entries ↔
      e ∈ m.entries ∧ ¬ op.Drops now e ∨ op.entry? now m.lifetime = some e := by
  cases op with
  | set key value given =>
      rw [hasRoom, decide_eq_true_iff] at hroom
      have hall : (m.perform now (.set key value given)).entries =
          without key (m.entries.filter (·.isLive now)) ++ [⟨key, value, now + given.getD m.lifetime⟩] := by
        have hfits : (without key (m.entries.filter (·.isLive now))).length + 1 - m.capacity = 0 := by omega
        simp [perform, set, hfits]
      have hkept : (e ∈ m.entries ∧ e.isLive now = true) ∧ e.key ≠ key ↔
          e ∈ m.entries ∧ ¬ (Operation.set key value given).Drops now e := by
        rw [Operation.Drops, Entry.isLive, decide_eq_true_iff, not_or, Int.not_le, and_assoc, and_comm (b := e.key ≠ key)]
      rw [hall, List.mem_append, mem_without, List.mem_filter, hkept, List.mem_singleton, Operation.entry?,
        Option.some_inj]
      exact or_congr_right eq_comm
  | get key =>
      simp only [Operation.entry?, reduceCtorEq, or_false]
      exact mem_get_iff h
  | has key =>
      simp only [Operation.entry?, reduceCtorEq, or_false]
      exact mem_get_iff h
  | delete key => simp [perform, delete, mem_without, Operation.Drops, Operation.entry?]
  | clear => simp [perform, clear, Operation.Drops, Operation.entry?]

end Memory

/-! ## The cache on disk -/

namespace Disk

/-- A cache on disk after an operation. -/
def perform (now : Int) (d : Disk α) : Operation α → Disk α
  | .set key value given => (d.set key value given now).toOption.getD d
  | .get _ => d
  | .has _ => d
  | .delete key => (d.delete key now).2
  | .clear => d.clear

/-- A cache on disk after operations one after the other, each with the reading of the clock. -/
def run (d : Disk α) (past : List (Int × Operation α)) : Disk α :=
  past.foldl (fun d (now, op) => d.perform now op) d

variable {d : Disk α} {now : Int}

/-- An operation leaves the cache open, and how long values last. -/
theorem perform_bounds (hopen : d.isOpen = true) (op : Operation α) :
    (d.perform now op).isOpen = true ∧ (d.perform now op).lifetime = d.lifetime := by
  cases op with
  | set key value given => simp [perform, set, hopen, Except.toOption]
  | get key => exact ⟨hopen, rfl⟩
  | has key => exact ⟨hopen, rfl⟩
  | delete key =>
      rw [perform, delete]
      split
      · exact ⟨hopen, rfl⟩
      · exact ⟨hopen, rfl⟩
  | clear => simp [perform, clear, hopen]

/-- A key is in an open cache when an entry that is not stale has it. -/
theorem has_iff (hopen : d.isOpen = true) (h : OwnKeys d.entries) {key : String} :
    d.has key now = true ↔ ∃ e ∈ d.entries, e.key = key ∧ now < e.expiry := by
  simp only [has, hopen, Bool.true_and, Option.isSome_iff_exists, live?, h.live?_eq_some_iff]

/-- **What an operation leaves on disk.**  That is what it does not take out, and what it writes. -/
theorem mem_perform_iff (hopen : d.isOpen = true) (h : OwnKeys d.entries) {op : Operation α} {e : Entry α} :
    e ∈ (d.perform now op).entries ↔
      e ∈ d.entries ∧ ¬ op.DropsStored now e ∨ op.entry? now d.lifetime = some e := by
  cases op with
  | set key value given =>
      simp only [perform, set, hopen, if_true, Except.toOption, Option.getD_some, List.mem_append, mem_without,
        List.mem_singleton, Operation.DropsStored, Operation.entry?, Option.some_inj]
      exact or_congr_right eq_comm
  | get key => simp [perform, Operation.DropsStored, Operation.entry?]
  | has key => simp [perform, Operation.DropsStored, Operation.entry?]
  | delete key =>
      simp only [perform, delete, Operation.DropsStored, Operation.entry?, reduceCtorEq, or_false]
      split
      · rename_i hheld
        obtain ⟨held, hmem, hkey, hlive⟩ := (has_iff hopen h).mp hheld
        rw [mem_without]
        refine and_congr_right fun he => ⟨fun hne hdropped => hne hdropped.1, fun hkept hsame => hkept ⟨hsame, ?_⟩⟩
        rw [h.eq he hmem (hsame.trans hkey.symm)]
        exact hlive
      · rename_i hnot
        refine ⟨fun he => ⟨he, fun hdropped => hnot ?_⟩, And.left⟩
        exact (has_iff hopen h).mpr ⟨e, he, hdropped⟩
  | clear => simp [perform, clear, hopen, Operation.DropsStored, Operation.entry?]

/-- No operation brings a key in twice. -/
theorem ownKeys_perform (h : OwnKeys d.entries) (op : Operation α) : OwnKeys (d.perform now op).entries := by
  cases op with
  | set key value given =>
      rw [perform, set]
      split
      · exact h.write ⟨key, value, now + given.getD d.lifetime⟩
      · exact h
  | get key => exact h
  | has key => exact h
  | delete key =>
      rw [perform, delete]
      split
      · exact h.sublist List.filter_sublist
      · exact h
  | clear =>
      rw [perform, clear]
      split
      · exact List.nodup_nil
      · exact h

end Disk

/-! ## Both caches -/

/-- At a time two caches hold the same, but for what is stale. -/
structure Alike (now : Int) (m : Memory α) (d : Disk α) : Prop where
  live : ∀ e : Entry α, now < e.expiry → (e ∈ m.entries ↔ e ∈ d.entries)
  lifetime : m.lifetime = d.lifetime
  isOpen : d.isOpen = true
  memoryKeys : OwnKeys m.entries
  diskKeys : OwnKeys d.entries

section Alike

variable {now : Int} {m : Memory α} {d : Disk α}

/-- Time makes no difference but by what becomes stale. -/
theorem Alike.later (h : Alike now m d) {later : Int} (hlater : now ≤ later) : Alike later m d :=
  { h with live := fun e he => h.live e (by omega) }

/-- **Every operation keeps two caches alike**, as long as nothing has to go from memory to make room. -/
theorem Alike.perform (h : Alike now m d) {op : Operation α} (hroom : m.hasRoom now op = true)
    (hkeys : OwnKeys (m.perform now op).entries) : Alike now (m.perform now op) (d.perform now op) where
  live e he := by
    rw [Memory.mem_perform_iff h.memoryKeys hroom, Disk.mem_perform_iff h.isOpen h.diskKeys, h.live e he, h.lifetime,
      op.drops_iff_of_live he]
  lifetime := by
    rw [(Memory.perform_bounds now m op).1, (Disk.perform_bounds h.isOpen op).2, h.lifetime]
  isOpen := (Disk.perform_bounds h.isOpen op).1
  memoryKeys := hkeys
  diskKeys := Disk.ownKeys_perform h.diskKeys op

/-- Both find the same under a key. -/
theorem Alike.live?_eq (h : Alike now m d) (key : String) :
    (written? key m.entries).filter (·.isLive now) = d.live? key now := by
  refine Option.ext fun e => ?_
  rw [Disk.live?, h.memoryKeys.live?_eq_some_iff, h.diskKeys.live?_eq_some_iff]
  constructor
  · rintro ⟨he, hkey, hlive⟩
    exact ⟨(h.live e hlive).mp he, hkey, hlive⟩
  · rintro ⟨he, hkey, hlive⟩
    exact ⟨(h.live e hlive).mpr he, hkey, hlive⟩

/-- Both answer a read alike. -/
theorem Alike.get_eq (h : Alike now m d) (key : String) : d.get key now = .ok (m.get key now).1 := by
  rw [Disk.get, if_pos h.isOpen, Memory.get_fst, h.live?_eq]

/-- Both answer alike whether there is a value. -/
theorem Alike.has_eq (h : Alike now m d) (key : String) : d.has key now = (m.has key now).1 := by
  have hfound : (m.has key now).1 = (m.get key now).1.isSome := rfl
  rw [hfound, Disk.has, h.isOpen, Bool.true_and, Memory.get_fst, h.live?_eq, Option.isSome_map]

/-- **A deletion in memory says whether there was a value**, exactly when none is held that is stale. -/
theorem Memory.delete_eq_has_iff (h : OwnKeys m.entries) (key : String) :
    (m.delete key).1 = (m.has key now).1 ↔ ¬ ∃ e ∈ m.entries, e.key = key ∧ e.expiry ≤ now := by
  have hdelete : (m.delete key).1 = (written? key m.entries).isSome := rfl
  have hhas : (m.has key now).1 = (m.get key now).1.isSome := rfl
  rw [hdelete, hhas, Memory.get_fst, Option.isSome_map]
  cases hfound : written? key m.entries with
  | none =>
      refine iff_of_true rfl ?_
      rintro ⟨e, he, hkey, -⟩
      have hsome := h.written?_eq_some_iff.mpr ⟨he, hkey⟩
      rw [hfound] at hsome
      cases hsome
  | some found =>
      obtain ⟨hmem, hkey⟩ := h.written?_eq_some_iff.mp hfound
      cases hlive : found.isLive now with
      | true =>
          refine iff_of_true (by simp [Option.filter, hlive]) ?_
          rintro ⟨e, he, hsame, hstale⟩
          rw [h.eq he hmem (hsame.trans hkey.symm)] at hstale
          rw [Entry.isLive, decide_eq_true_iff] at hlive
          omega
      | false =>
          refine iff_of_false (by simp [Option.filter, hlive]) (not_not_intro ⟨found, hmem, hkey, ?_⟩)
          rw [Entry.isLive, decide_eq_false_iff_not] at hlive
          omega

end Alike

/-! ## Histories -/

/-- An entry was written in a history, and nothing took it out of memory since. -/
def Stays (lifetime : Int) (e : Entry α) (past : List (Int × Operation α)) : Prop :=
  ∃ before time op after, past = before ++ (time, op) :: after ∧ op.entry? time lifetime = some e ∧
    ∀ x ∈ after, ¬ x.2.Drops x.1 e

/-- A value of a key is stale at a time, and nothing has taken it out of memory. -/
def Lingers (lifetime : Int) (key : String) (now : Int) (past : List (Int × Operation α)) : Prop :=
  ∃ e : Entry α, Stays lifetime e past ∧ e.key = key ∧ e.expiry ≤ now

/-- What stays stayed before and is not taken out last, or is written last. -/
theorem stays_append_iff {lifetime : Int} {e : Entry α} {past : List (Int × Operation α)} {now : Int}
    {op : Operation α} :
    Stays lifetime e (past ++ [(now, op)]) ↔
      Stays lifetime e past ∧ ¬ op.Drops now e ∨ op.entry? now lifetime = some e := by
  constructor
  · rintro ⟨before, time, written, after, hpast, hentry, hkept⟩
    rcases List.eq_nil_or_concat after with rfl | ⟨after, last, rfl⟩
    · obtain ⟨-, hlast⟩ := List.append_inj' hpast rfl
      obtain ⟨rfl, rfl⟩ := Prod.mk.inj (List.cons.inj hlast).1
      exact .inr hentry
    · rw [List.concat_eq_append, ← List.cons_append, ← List.append_assoc] at hpast
      obtain ⟨hbefore, hlast⟩ := List.append_inj' hpast rfl
      obtain ⟨rfl, -⟩ := List.cons.inj hlast
      refine .inl ⟨⟨before, time, written, after, hbefore, hentry, fun x hx => hkept x ?_⟩, hkept (now, op) ?_⟩
      · simp [hx]
      · simp
  · rintro (⟨⟨before, time, written, after, rfl, hentry, hkept⟩, hlast⟩ | hentry)
    · refine ⟨before, time, written, after ++ [(now, op)], by simp, hentry, fun x hx => ?_⟩
      rcases List.mem_append.mp hx with hx | hx
      · exact hkept x hx
      · rw [List.mem_singleton.mp hx]
        exact hlast
    · exact ⟨past, now, op, [], rfl, hentry, nofun⟩

section Histories

variable {lifetime : Int} {capacity : Nat} {past : List (Int × Operation α)}

/-- **What is held in memory** is what was written and not taken out since, where there was room for all of it. -/
theorem Memory.mem_run_iff (hroom : Memory.neverEvicts { lifetime, capacity } past = true) {e : Entry α} :
    e ∈ (Memory.run { lifetime, capacity } past).entries ↔ Stays lifetime e past := by
  induction past using List.reverseRecOn with
  | nil => simp [Memory.run, Stays]
  | append_singleton past last ih =>
      obtain ⟨now, op⟩ := last
      obtain ⟨hbefore, hlast⟩ := Memory.neverEvicts_concat.mp hroom
      have hlifetime := (Memory.run_bounds ({ lifetime, capacity } : Memory α) past).1
      have hkeys := (Memory.follows_run lifetime capacity past).nodup
      rw [Memory.run_concat, Memory.mem_perform_iff hkeys hlast, ih hbefore, hlifetime, stays_append_iff]

/-- **After any operations the two caches are alike.** -/
theorem alike_run {now : Int} (hclock : (past.map (·.1)).Pairwise (· ≤ ·)) (hnow : ∀ x ∈ past, x.1 ≤ now)
    (hroom : Memory.neverEvicts { lifetime, capacity } past = true) :
    Alike now (Memory.run { lifetime, capacity } past) (Disk.run { lifetime, isOpen := true } past) := by
  induction past using List.reverseRecOn generalizing now with
  | nil => exact ⟨fun _ _ => Iff.rfl, rfl, rfl, List.nodup_nil, List.nodup_nil⟩
  | append_singleton past last ih =>
      obtain ⟨time, op⟩ := last
      obtain ⟨hbefore, hlast⟩ := Memory.neverEvicts_concat.mp hroom
      rw [List.map_append, List.pairwise_append] at hclock
      obtain ⟨hsorted, -, hupto⟩ := hclock
      have hearlier : ∀ x ∈ past, x.1 ≤ time := by
        intro x hx
        exact hupto x.1 (List.mem_map_of_mem hx) time (by simp)
      have hkeys := (Memory.follows_run lifetime capacity (past ++ [(time, op)])).nodup
      have halike := ih hsorted hearlier hbefore
      rw [Memory.run_concat] at hkeys ⊢
      rw [Disk.run, List.foldl_append]
      exact (halike.perform hlast hkeys).later (hnow (time, op) (by simp))

end Histories

/-! ## Answers -/

/-- A deletion on disk says whether there was a value. -/
theorem Disk.delete_eq_has (key : String) (now : Int) (d : Disk α) : (d.delete key now).1 = d.has key now := by
  rw [delete]
  cases d.has key now <;> rfl

namespace Store

/-- An empty cache of either kind that is ready for use. -/
def ready (backend : Backend) (lifetime : Int) (capacity : Nat) : Store α :=
  (ofBackend backend lifetime capacity).opened

theorem perform_memory (now : Int) (m : Memory α) (op : Operation α) :
    ((memory m).perform now op).2 = memory (m.perform now op) := by
  cases op <;> rfl

theorem perform_disk (now : Int) (d : Disk α) (op : Operation α) :
    ((disk d).perform now op).2 = disk (d.perform now op) := by
  cases op with
  | set key value given =>
      simp only [perform, set, Disk.perform]
      cases d.set key value given now <;> rfl
  | get key =>
      simp only [perform, get]
      cases d.get key now <;> rfl
  | has key => rfl
  | delete key => rfl
  | clear => rfl

theorem run_memory (m : Memory α) (past : List (Int × Operation α)) : (memory m).run past = memory (m.run past) := by
  induction past generalizing m with
  | nil => rfl
  | cons first past ih =>
      obtain ⟨now, op⟩ := first
      calc (memory m).run ((now, op) :: past) = ((memory m).perform now op).2.run past := rfl
        _ = (memory (m.perform now op)).run past := by rw [perform_memory]
        _ = memory (m.run ((now, op) :: past)) := ih (m.perform now op)

theorem run_disk (d : Disk α) (past : List (Int × Operation α)) : (disk d).run past = disk (d.run past) := by
  induction past generalizing d with
  | nil => rfl
  | cons first past ih =>
      obtain ⟨now, op⟩ := first
      calc (disk d).run ((now, op) :: past) = ((disk d).perform now op).2.run past := rfl
        _ = (disk (d.perform now op)).run past := by rw [perform_disk]
        _ = disk (d.run ((now, op) :: past)) := ih (d.perform now op)

/-- Two caches that are alike give one answer, unless a key is deleted whose value in memory is stale. -/
theorem reply_eq_iff {now : Int} {m : Memory α} {d : Disk α} (h : Alike now m d) (op : Operation α) :
    ((memory m).perform now op).1 = ((disk d).perform now op).1 ↔
      ∀ key, op = .delete key → ¬ ∃ e ∈ m.entries, e.key = key ∧ e.expiry ≤ now := by
  cases op with
  | set key value given =>
      refine iff_of_true ?_ nofun
      simp [perform, set, Disk.set, h.isOpen, Except.map]
  | get key =>
      refine iff_of_true ?_ nofun
      simp [perform, get, h.get_eq]
  | has key =>
      refine iff_of_true ?_ nofun
      simp [perform, has, h.has_eq]
  | delete key =>
      simp only [perform, delete, Reply.truth.injEq, Operation.delete.injEq, forall_eq', Disk.delete_eq_has, h.has_eq]
      exact Memory.delete_eq_has_iff h.memoryKeys key
  | clear => exact iff_of_true rfl nofun

/-- **One cache answers as the other, unless a value lingers that is deleted.**  Both are empty at first, the clock never
goes back, and there is always room in memory.  Then all answers of a run are the same exactly when no key is deleted
whose value lingers: one that is stale, and that neither a write of any key, nor an operation on its own key met since.
Each single answer is the same but for such a deletion.  A deletion on disk says whether the key was there; one in
memory says so exactly when nothing lingers under it. -/
theorem same_answers_iff {lifetime : Int} {capacity : Nat} {past : List (Int × Operation α)}
    (hclock : (past.map (·.1)).Pairwise (· ≤ ·))
    (hroom : Memory.neverEvicts { lifetime, capacity } past = true) :
    ((ready .memory lifetime capacity).replies past = (ready .disk lifetime capacity).replies past ↔
      ∀ before now key after, past = before ++ (now, .delete key) :: after → ¬ Lingers lifetime key now before) ∧
    ∀ before now op after, past = before ++ (now, op) :: after →
      ((((ready .memory lifetime capacity).run before).perform now op).1 =
          (((ready .disk lifetime capacity).run before).perform now op).1 ↔
        ∀ key, op = .delete key → ¬ Lingers lifetime key now before) ∧
      ∀ key,
        (((ready .disk lifetime capacity : Store α).run before).delete key now).1 =
          (((ready .disk lifetime capacity : Store α).run before).has key now).1 ∧
        ((((ready .memory lifetime capacity : Store α).run before).delete key now).1 =
            (((ready .memory lifetime capacity : Store α).run before).has key now).1 ↔
          ¬ Lingers lifetime key now before) := by
  -- what is there before an operation of the run: the two caches, alike, and in memory what stays of the history
  have hrun : ∀ before now op after, past = before ++ (now, op) :: after →
      Alike now (Memory.run { lifetime, capacity } before) (Disk.run { lifetime, isOpen := true } before) ∧
      ∀ key, (∃ e ∈ (Memory.run { lifetime, capacity } before).entries, e.key = key ∧ e.expiry ≤ now) ↔
        Lingers lifetime key now before := by
    intro before now op after heq
    rw [heq, Memory.neverEvicts_append, Bool.and_eq_true] at hroom
    rw [heq, List.map_append, List.pairwise_append] at hclock
    obtain ⟨hsorted, -, hupto⟩ := hclock
    have hearlier : ∀ x ∈ before, x.1 ≤ now := by
      intro x hx
      exact hupto x.1 (List.mem_map_of_mem hx) now (by simp)
    refine ⟨alike_run hsorted hearlier hroom.1, fun key => exists_congr fun e => ?_⟩
    rw [Memory.mem_run_iff hroom.1]
  have hmemory : ∀ before : List (Int × Operation α),
      (ready .memory lifetime capacity).run before = memory (Memory.run { lifetime, capacity } before) :=
    run_memory { lifetime, capacity }
  have hdisk : ∀ before : List (Int × Operation α),
      (ready .disk lifetime capacity).run before = disk (Disk.run { lifetime, isOpen := true } before) :=
    run_disk { lifetime, isOpen := true }
  have hreply : ∀ before now op after, past = before ++ (now, op) :: after →
      ((((ready .memory lifetime capacity).run before).perform now op).1 =
          (((ready .disk lifetime capacity).run before).perform now op).1 ↔
        ∀ key, op = .delete key → ¬ Lingers lifetime key now before) := by
    intro before now op after heq
    obtain ⟨halike, hlingers⟩ := hrun before now op after heq
    rw [hmemory, hdisk, reply_eq_iff halike]
    simp only [hlingers]
  refine ⟨?_, fun before now op after heq => ⟨hreply before now op after heq, fun key => ?_⟩⟩
  · rw [replies_eq_replies_iff]
    constructor
    · intro h before now key after heq
      exact (hreply before now _ after heq).mp (h before now _ after heq) key rfl
    · intro h before now op after heq
      refine (hreply before now op after heq).mpr ?_
      rintro key rfl
      exact h before now key after heq
  · obtain ⟨halike, hlingers⟩ := hrun before now op after heq
    rw [hmemory, hdisk, ← hlingers key]
    exact ⟨Disk.delete_eq_has key now _, Memory.delete_eq_has_iff halike.memoryKeys key⟩

/-- A value that is asked for when it has become stale, and then deleted. -/
def metPast : List (Int × Operation String) :=
  [(0, .set "k" "v" (some 10)), (10, .has "k"), (10, .delete "k")]

/-- The question has met it: the answers are the same, as nothing lingers when the key is deleted. -/
theorem same_answers_metPast : ¬ Lingers 120 "k" 10 (metPast.take 2) ∧ (ready .memory 120 100).replies metPast =
    (ready .disk 120 100).replies metPast := by
  have hclock : (metPast.map (·.1)).Pairwise (· ≤ ·) := by decide
  have hroom : Memory.neverEvicts { lifetime := 120, capacity := 100 } metPast = true := by decide
  have hsame : (ready .memory 120 100).replies metPast = (ready .disk 120 100).replies metPast := by decide
  obtain ⟨hiff, -⟩ := same_answers_iff hclock hroom
  exact ⟨hiff.mp hsame (metPast.take 2) 10 "k" [] rfl, hsame⟩

/-- Deleted without being asked for, it is there to a cache in memory, which has just as little of it to give as the one
on disk. -/
theorem lingering_deleted :
    (([(0, .set "k" "v" (some 10)), (10, .delete "k")] : List (Int × Operation String)).map (·.1)).Pairwise (· ≤ ·) ∧
    Memory.neverEvicts { lifetime := 120, capacity := 100 }
      ([(0, .set "k" "v" (some 10)), (10, .delete "k")] : List (Int × Operation String)) = true ∧
    (ready .memory 120 100).replies [(0, .set "k" "v" (some 10)), (10, .delete "k")] = [.done, .truth true] ∧
    (ready .disk 120 100).replies [(0, .set "k" "v" (some 10)), (10, .delete "k")] = [.done, .truth false] ∧
    (ready .memory 120 100).replies [(0, .set "k" "v" (some 10)), (10, .has "k")] = [.done, .truth false] := by
  decide

end Store

end MetaSearch.Cache
