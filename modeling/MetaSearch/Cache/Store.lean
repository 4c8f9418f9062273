import MetaSearch.Fault

/-!
# Caches

What a cache keeps of a write: the value, its key and the instant from which it is stale. Instants are whole seconds
from the start of a clock. Values are kept in memory or on disk, and a configuration names one of the two.
-/

namespace MetaSearch.Cache

/-! ## Written values -/

/-- A value as it was written. -/
structure Entry (α : Type) where
  key : String
  value : α
  /-- The instant from which the value is stale. -/
  expiry : Int
  deriving DecidableEq, Repr, Inhabited

section

variable {α : Type}

/-- Whether a value is not stale yet. -/
def Entry.isLive (now : Int) (e : Entry α) : Bool :=
  now < e.expiry

/-- What was written under a key. -/
def written? (key : String) (entries : List (Entry α)) : Option (Entry α) :=
  entries.find? (·.key == key)

/-- The entries of all other keys. -/
def without (key : String) (entries : List (Entry α)) : List (Entry α) :=
  entries.filter (·.key != key)

theorem mem_without {key : String} {entries : List (Entry α)} {e : Entry α} :
    e ∈ without key entries ↔ e ∈ entries ∧ e.key ≠ key := by
  simp [without]

theorem written?_without (key : String) (entries : List (Entry α)) : written? key (without key entries) = none := by
  simp [written?, without]

end

/-! ## Caches in memory

A cache that holds a bounded number of values, the latest written. A write sweeps out what is stale, and a read
drops the stale value that it meets; until then a stale value stays and takes up room. `size_set_le` states the
bound.
-/

/-- A cache in memory, its entries in the order of their writes. -/
structure Memory (α : Type) where
  /-- How long values last that are written without a lifetime of their own. -/
  lifetime : Int := 120
  /-- How many values are held at most. -/
  capacity : Nat := 100
  entries : List (Entry α) := []
  deriving Repr, Inhabited

namespace Memory

variable {α : Type}

/-- How many values are held, stale ones among them. -/
def size (m : Memory α) : Nat := m.entries.length

/-- The value under a key, unless it is stale; a stale value is dropped. -/
def get (key : String) (now : Int) (m : Memory α) : Option α × Memory α :=
  match written? key m.entries with
  | none => (none, m)
  | some e => if e.isLive now then (some e.value, m) else (none, { m with entries := without key m.entries })

/-- Whether a value that is not stale is held under a key; a stale value is dropped. -/
def has (key : String) (now : Int) (m : Memory α) : Bool × Memory α :=
  let (value, m) := m.get key now
  (value.isSome, m)

/-- A value written: stale values go, then the value itself stands last, then the first written go until the
rest fits. -/
def set (key : String) (value : α) (lifetime : Option Int) (now : Int) (m : Memory α) : Memory α :=
  let kept := without key (m.entries.filter (·.isLive now))
  let written := kept ++ [⟨key, value, now + lifetime.getD m.lifetime⟩]
  { m with entries := written.drop (written.length - m.capacity) }

/-- A key dropped, and whether a value was held under it, stale or not. -/
def delete (key : String) (m : Memory α) : Bool × Memory α :=
  ((written? key m.entries).isSome, { m with entries := without key m.entries })

/-- The cache emptied. -/
def clear (m : Memory α) : Memory α :=
  { m with entries := [] }

theorem size_set_le (key : String) (value : α) (lifetime : Option Int) (now : Int) (m : Memory α) :
    (m.set key value lifetime now).size ≤ m.capacity := by
  simp only [set, size, List.length_drop]
  omega

end Memory

/-! ## Caches on disk

A cache that outlives the program. It is opened before use and may be closed and opened again with all that was
written; it is not bounded, and a stale value is as good as none. While it is closed, reads and writes have no
answer, and there is nothing in it to be found or dropped.
-/

/-- A cache on disk. -/
structure Disk (α : Type) where
  /-- How long values last that are written without a lifetime of their own. -/
  lifetime : Int := 120
  entries : List (Entry α) := []
  isOpen : Bool := false
  deriving Repr, Inhabited

namespace Disk

variable {α : Type}

/-- What is said of a read or a write while the cache is closed. -/
def closedMessage : String :=
  "Cache not initialized. Use 'async with cache:' or await cache.__aenter__()"

/-- The cache opened. -/
def opened (d : Disk α) : Disk α := { d with isOpen := true }

/-- The cache closed, with all that was written. -/
def closed (d : Disk α) : Disk α := { d with isOpen := false }

/-- What is written under a key and not stale. -/
def live? (key : String) (now : Int) (d : Disk α) : Option (Entry α) :=
  (written? key d.entries).filter (·.isLive now)

/-- The value under a key. -/
def get (key : String) (now : Int) (d : Disk α) : Except Fault (Option α) :=
  if d.isOpen then .ok ((d.live? key now).map (·.value)) else .error .closedStore

/-- Whether a value is held under a key. -/
def has (key : String) (now : Int) (d : Disk α) : Bool :=
  d.isOpen && (d.live? key now).isSome

/-- A value written. -/
def set (key : String) (value : α) (lifetime : Option Int) (now : Int) (d : Disk α) : Except Fault (Disk α) :=
  if d.isOpen then
    .ok { d with entries := without key d.entries ++ [⟨key, value, now + lifetime.getD d.lifetime⟩] }
  else .error .closedStore

/-- A key dropped, and whether a value was held under it. -/
def delete (key : String) (now : Int) (d : Disk α) : Bool × Disk α :=
  if d.has key now then (true, { d with entries := without key d.entries }) else (false, d)

/-- The cache emptied. -/
def clear (d : Disk α) : Disk α :=
  if d.isOpen then { d with entries := [] } else d

theorem get_closed (key : String) (now : Int) (d : Disk α) : d.closed.get key now = .error .closedStore := rfl

theorem get_closed_opened (key : String) (now : Int) (d : Disk α) :
    d.closed.opened.get key now = d.opened.get key now := rfl

end Disk

/-! ## Stores

The caches that a configuration can name, under one set of operations.
-/

/-- Where a cache lives. -/
inductive Backend where
  | memory | disk
  deriving DecidableEq, Repr, Inhabited

namespace Backend

/-- The names of the places. -/
def names : List (String × Backend) :=
  [("memory", .memory), ("diskcache", .disk)]

/-- The name of a place. -/
def name : Backend → String
  | memory => "memory"
  | disk => "diskcache"

end Backend

/-- A cache of either kind. -/
inductive Store (α : Type) where
  | memory (m : Memory α)
  | disk (d : Disk α)
  deriving Repr

namespace Store

variable {α : Type}

/-- An empty cache; one on disk is closed. -/
def ofBackend (backend : Backend) (lifetime : Int) (capacity : Nat) : Store α :=
  match backend with
  | .memory => memory { lifetime, capacity }
  | .disk => disk { lifetime }

/-- The cache made ready for use. -/
def opened : Store α → Store α
  | memory m => memory m
  | disk d => disk d.opened

/-- The cache put away; memory forgets. -/
def closed : Store α → Store α
  | memory m => memory m.clear
  | disk d => disk d.closed

/-- The value under a key. -/
def get (key : String) (now : Int) : Store α → Except Fault (Option α) × Store α
  | memory m =>
    let (value, m) := m.get key now
    (.ok value, memory m)
  | disk d => (d.get key now, disk d)

/-- Whether a value is held under a key. -/
def has (key : String) (now : Int) : Store α → Bool × Store α
  | memory m =>
    let (found, m) := m.has key now
    (found, memory m)
  | disk d => (d.has key now, disk d)

/-- A value written. -/
def set (key : String) (value : α) (lifetime : Option Int) (now : Int) : Store α → Except Fault (Store α)
  | memory m => .ok (memory (m.set key value lifetime now))
  | disk d => (d.set key value lifetime now).map disk

/-- A key dropped, and whether something was dropped. -/
def delete (key : String) (now : Int) : Store α → Bool × Store α
  | memory m =>
    let (dropped, m) := m.delete key
    (dropped, memory m)
  | disk d =>
    let (dropped, d) := d.delete key now
    (dropped, disk d)

/-- The cache emptied. -/
def clear : Store α → Store α
  | memory m => memory m.clear
  | disk d => disk d.clear

end Store

end MetaSearch.Cache
