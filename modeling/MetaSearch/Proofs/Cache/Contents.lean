import MetaSearch.Cache.Store

/-!
# What a cache in memory holds

Nothing comes into a cache in memory but by a write, and a read finds only what was written and is not stale.
-/

namespace MetaSearch.Cache.Memory

variable {α : Type}

/-- After a write there is what was there before under other keys, and the written value under its own. -/
theorem other_or_new_of_mem_set {key : String} {value : α} {lifetime : Option Int} {now : Int} {m : Memory α}
    {e : Entry α} (he : e ∈ (m.set key value lifetime now).entries) :
    e ∈ m.entries ∧ e.key ≠ key ∨ e = ⟨key, value, now + lifetime.getD m.lifetime⟩ := by
  have hwritten := List.mem_of_mem_drop he
  rcases List.mem_append.mp hwritten with hkept | hnew
  · obtain ⟨hlive, hne⟩ := mem_without.mp hkept
    exact .inl ⟨(List.mem_filter.mp hlive).1, hne⟩
  · exact .inr (List.mem_singleton.mp hnew)

/-- After a write there is what was there before, or the written value under its key. -/
theorem mem_entries_set {key : String} {value : α} {lifetime : Option Int} {now : Int} {m : Memory α}
    {e : Entry α} (he : e ∈ (m.set key value lifetime now).entries) :
    e ∈ m.entries ∨ e = ⟨key, value, now + lifetime.getD m.lifetime⟩ :=
  (other_or_new_of_mem_set he).imp_left And.left

/-- After a read there is nothing that was not there before. -/
theorem mem_entries_get {key : String} {now : Int} {m : Memory α} {e : Entry α}
    (he : e ∈ (m.get key now).2.entries) : e ∈ m.entries := by
  simp only [get] at he
  split at he
  · exact he
  · split at he
    · exact he
    · exact (mem_without.mp he).1

/-- What a read finds was written under that key and is not stale. -/
theorem exists_entry_of_get {key : String} {now : Int} {m : Memory α} {value : α}
    (h : (m.get key now).1 = some value) : ∃ e ∈ m.entries, e.key = key ∧ e.value = value ∧ now < e.expiry := by
  simp only [get] at h
  split at h
  · simp at h
  · rename_i e he
    split at h
    · rename_i hlive
      have hkey : e.key = key := by simpa using List.find?_some he
      exact ⟨e, List.mem_of_find?_eq_some he, hkey, by simpa using h, by simpa [Entry.isLive] using hlive⟩
    · simp at h

end MetaSearch.Cache.Memory
