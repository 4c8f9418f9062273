import Mathlib.Data.List.Nodup
import Mathlib.Data.Rat.Cast.Order
import MetaSearch.Datum.Basic

/-!
# Maps and their keys

Keys are told apart by what they stand for, not by how they are written: a truth value, a whole number and a floating-point
number that are equal are one key, and the undefined number is the same key as nothing, not even as itself.  `sameKey_iff`
puts this into one statement, so that being the same key is symmetric and transitive, and `lookup?_insert` says for any two
keys what setting the one does to the other.

Then it is said what lies under a text in a map, and how maps come about that have no key twice: by putting entries in one
after the other, and from names.  A datum is `Proper` if no map in it has a key twice, as the maps of documents are.
-/

namespace MetaSearch

namespace Binary64

theorem den_pos_of_signedRatio? {x : Binary64} {a : Int} {b : Nat} (h : x.signedRatio? = some (a, b)) : 0 < b := by
  cases x with
  | finite s m e =>
      obtain ⟨-, rfl⟩ : _ ∧ (ratio m e).2 = b := by simpa [signedRatio?] using h
      unfold ratio
      split
      · exact Nat.two_pow_pos _
      · exact Nat.one_pos
  | _ => cases h

/-- The rational number that a finite value is. -/
def rational? (x : Binary64) : Option ℚ :=
  x.signedRatio?.map fun ratio => (ratio.1 : ℚ) / ratio.2

/-- Finite values are equal as numbers when they are one rational number. -/
theorem eq_finite_iff {s t : Bool} {m n : Nat} {e f : Int} :
    (finite s m e).eq (finite t n f) = true ↔ (finite s m e).rational? = (finite t n f).rational? := by
  obtain ⟨⟨a, b⟩, hx⟩ : ∃ r, (finite s m e).signedRatio? = some r := ⟨_, rfl⟩
  obtain ⟨⟨c, d⟩, hy⟩ : ∃ r, (finite t n f).signedRatio? = some r := ⟨_, rfl⟩
  have hb : (b : ℚ) ≠ 0 := by exact_mod_cast (den_pos_of_signedRatio? hx).ne'
  have hd : (d : ℚ) ≠ 0 := by exact_mod_cast (den_pos_of_signedRatio? hy).ne'
  simp only [eq, rational?, hx, hy, Option.map_some, Option.some.injEq, beq_iff_eq, div_eq_div_iff hb hd]
  exact_mod_cast Iff.rfl

/-- A value equals a whole number when it is that rational number. -/
theorem eqInt_iff {x : Binary64} {i : Int} : x.eqInt i = true ↔ x.rational? = some (i : ℚ) := by
  cases hx : x.signedRatio? with
  | none => simp [eqInt, rational?, hx]
  | some r =>
      obtain ⟨a, b⟩ := r
      have hb : (b : ℚ) ≠ 0 := by exact_mod_cast (den_pos_of_signedRatio? hx).ne'
      simp only [eqInt, rational?, hx, Option.map_some, Option.some.injEq, beq_iff_eq, div_eq_iff hb]
      exact_mod_cast Iff.rfl

/-- A value that equals a whole number is cut to that number. -/
theorem truncate?_of_eqInt {x : Binary64} {i : Int} (h : x.eqInt i = true) : x.truncate? = some i := by
  cases x with
  | finite s m e =>
      have hpos : 0 < (ratio m e).2 := den_pos_of_signedRatio? (x := finite s m e) rfl
      have hne : ((ratio m e).2 : Int) ≠ 0 := by exact_mod_cast hpos.ne'
      have hwhole : (if s then -((ratio m e).1 : Int) else (ratio m e).1) = i * (ratio m e).2 := by
        simpa [eqInt, signedRatio?] using h
      simp only [truncate?, Option.some.injEq]
      cases s with
      | false =>
          simp only [Bool.false_eq_true, if_false] at hwhole ⊢
          rw [Int.natCast_ediv, hwhole, Int.mul_ediv_cancel _ hne]
      | true =>
          simp only [if_true] at hwhole ⊢
          have hneg : ((ratio m e).1 : Int) = -i * (ratio m e).2 := by rw [Int.neg_mul, ← hwhole, Int.neg_neg]
          rw [Int.natCast_ediv, hneg, Int.mul_ediv_cancel _ hne, Int.neg_neg]
  | _ => cases h

end Binary64

namespace Datum

/-! ## What keys stand for -/

/-- What a key stands for; of numbers, their value alone. -/
inductive KeyValue where
  | null
  | number (q : ℚ)
  | infinite (negative : Bool)
  | text (s : String)
  | date (d : Date)
  | stamp (r : Reading)
  | bytes (b : List UInt8)

/-- What a datum stands for as a key; nothing where it is the same key as nothing. -/
def keyValue? : Datum → Option KeyValue
  | null => some .null
  | bool b => some (.number (if b then 1 else 0 : Int))
  | int i => some (.number i)
  | float x =>
    match x with
    | .nan => none
    | .infinite negative => some (.infinite negative)
    | .finite .. => x.rational?.map .number
  | text s => some (.text s)
  | date d => some (.date d)
  | stamp r => some (.stamp r)
  | bytes b => some (.bytes b)
  | list _ | map _ => none

/-- What equals a whole number stands for that number. -/
theorem wholeNumber?_eq_some_iff {d : Datum} {i : Int} : d.wholeNumber? = some i ↔ d.keyValue? = some (.number i) := by
  cases d with
  | bool b => cases b <;> simpa [wholeNumber?, keyValue?] using by exact_mod_cast Iff.rfl
  | int j => simp [wholeNumber?, keyValue?]
  | float x =>
      have hcut : (float x).wholeNumber? = some i ↔ x.eqInt i = true := by
        rw [wholeNumber?]
        constructor
        · intro h
          split at h
          · split at h
            · exact Option.some.inj h ▸ ‹_›
            · cases h
          · cases h
        · intro h
          rw [Binary64.truncate?_of_eqInt h]
          simp [h]
      rw [hcut, Binary64.eqInt_iff]
      cases x <;> simp [keyValue?, Binary64.rational?, Binary64.signedRatio?]
  | _ => simp [wholeNumber?, keyValue?]

/-- A floating-point number stands for a number or an infinity. -/
theorem of_keyValue?_float {x : Binary64} {value : KeyValue} (h : (float x).keyValue? = some value) :
    (∃ q, value = .number q) ∨ ∃ negative, value = .infinite negative := by
  cases x with
  | nan => cases h
  | infinite negative => exact .inr ⟨negative, (Option.some.inj h).symm⟩
  | finite s m e => exact .inl ⟨_, (Option.some.inj h).symm⟩

/-- **Two data are the same key when they stand for one thing.** -/
theorem sameKey_iff {a b : Datum} : a.sameKey b = true ↔ ∃ value, a.keyValue? = some value ∧ b.keyValue? = some value := by
  unfold sameKey
  split
  case h_1 => simp [keyValue?]
  case h_2 | h_3 | h_4 | h_5 => simpa [keyValue?] using eq_comm
  case h_6 x y =>
    cases x <;> cases y
    case finite.finite =>
      rw [Binary64.eq_finite_iff]
      simp [keyValue?, Binary64.rational?, Binary64.signedRatio?, eq_comm]
    case infinite.infinite => simpa [keyValue?, Binary64.eq] using eq_comm
    all_goals simp [keyValue?, Binary64.eq, Binary64.rational?, Binary64.signedRatio?]
  case h_7 hnull htext hdate hstamp hbytes hfloat =>
    -- data of different kinds are compared as whole numbers, so whatever both stand for has to be one
    have hnumber : ∀ value, a.keyValue? = some value → b.keyValue? = some value → ∃ i : Int, value = .number i := by
      intro value ha hb
      cases a <;> cases b
      case null.null => exact (hnull rfl rfl).elim
      case text.text => exact (htext _ _ rfl rfl).elim
      case date.date => exact (hdate _ _ rfl rfl).elim
      case stamp.stamp => exact (hstamp _ _ rfl rfl).elim
      case bytes.bytes => exact (hbytes _ _ rfl rfl).elim
      case float.float => exact (hfloat _ _ rfl rfl).elim
      all_goals
        first
          | exact ⟨_, (Option.some.inj ha).symm⟩
          | exact ⟨_, (Option.some.inj hb).symm⟩
          -- no two other kinds stand for one thing
          | (rcases of_keyValue?_float ha with ⟨_, rfl⟩ | ⟨_, rfl⟩ <;> cases hb)
          | (rcases of_keyValue?_float hb with ⟨_, rfl⟩ | ⟨_, rfl⟩ <;> cases ha)
          | (cases ha <;> cases hb)
    trans ∃ i : Int, a.wholeNumber? = some i ∧ b.wholeNumber? = some i
    · cases a.wholeNumber? with
      | none => simp
      | some i =>
          cases b.wholeNumber? with
          | none => simp
          | some j => simpa using eq_comm
    · simp only [wholeNumber?_eq_some_iff]
      constructor
      · rintro ⟨i, ha, hb⟩
        exact ⟨_, ha, hb⟩
      · rintro ⟨value, ha, hb⟩
        obtain ⟨i, rfl⟩ := hnumber value ha hb
        exact ⟨i, ha, hb⟩

theorem sameKey_comm (a b : Datum) : a.sameKey b = b.sameKey a := by
  rw [Bool.eq_iff_iff, sameKey_iff, sameKey_iff]
  simp only [and_comm]

/-- What is the same key as another is the same key as whatever that is. -/
theorem sameKey_congr {a b : Datum} (h : a.sameKey b = true) (c : Datum) : c.sameKey a = c.sameKey b := by
  obtain ⟨value, ha, hb⟩ := sameKey_iff.mp h
  rw [Bool.eq_iff_iff, sameKey_iff, sameKey_iff, ha, hb]

/-- The same key has the same value. -/
theorem lookup?_congr {a b : Datum} (h : a.sameKey b = true) (entries : List (Datum × Datum)) :
    lookup? a entries = lookup? b entries := by
  rw [lookup?, lookup?]
  simp only [sameKey_congr h]

/-- The first entry of a map, as far as a key goes. -/
theorem lookup?_cons (key k d : Datum) (rest : List (Datum × Datum)) :
    lookup? key ((k, d) :: rest) = if k.sameKey key then some d else lookup? key rest := by
  rw [lookup?, List.find?_cons]
  cases k.sameKey key <;> rfl

/-- **What setting one key does to another.** -/
theorem lookup?_insert (key k value : Datum) (entries : List (Datum × Datum)) :
    lookup? key (insert k value entries) = if k.sameKey key then some value else lookup? key entries := by
  induction entries with
  | nil => exact lookup?_cons key k value []
  | cons entry rest ih =>
      obtain ⟨k', old⟩ := entry
      rw [insert]
      by_cases hkey : k'.sameKey k = true
      · rw [if_pos hkey, lookup?_cons, lookup?_cons, sameKey_comm k' key, sameKey_congr hkey, sameKey_comm key k]
        cases k.sameKey key <;> rfl
      · rw [if_neg hkey, lookup?_cons, lookup?_cons, ih]
        cases hown : k.sameKey key with
        | false => rfl
        | true =>
            -- what is the same key as `k'` as well would make `k'` the same key as `k`
            have hother : k'.sameKey key = false := by
              rw [← sameKey_congr hown]
              simpa using hkey
            rw [hother]
            rfl

/-! ## Texts as keys -/

/-- A text is the same key as itself only. -/
theorem sameKey_text_iff {k : Datum} {t : String} : k.sameKey (text t) = true ↔ k = text t := by
  cases k <;> simp [sameKey, wholeNumber?]

/-- No key is there twice. -/
def Distinct (entries : List (Datum × Datum)) : Prop :=
  entries.Pairwise fun a b => a.1.sameKey b.1 = false

@[simp] theorem lookup?_cons_self (t : String) (d : Datum) (rest : List (Datum × Datum)) :
    lookup? (text t) ((text t, d) :: rest) = some d := by
  simp [lookup?, sameKey_text]

theorem lookup?_cons_of_ne {k : Datum} {t : String} (h : k ≠ text t) (d : Datum) (rest : List (Datum × Datum)) :
    lookup? (text t) ((k, d) :: rest) = lookup? (text t) rest := by
  rw [lookup?, lookup?, List.find?_cons_of_neg (by simpa [sameKey_text_iff] using h)]

/-- What lies under a text is an entry. -/
theorem mem_of_lookup? {t : String} {d : Datum} {entries : List (Datum × Datum)}
    (h : lookup? (text t) entries = some d) : (text t, d) ∈ entries := by
  obtain ⟨⟨k, d⟩, hfind, rfl⟩ := Option.map_eq_some_iff.mp h
  have hkey : k = text t := sameKey_text_iff.mp (by simpa using List.find?_some hfind)
  exact hkey ▸ List.mem_of_find?_eq_some hfind

/-- Nothing lies under a text that is no key. -/
theorem lookup?_eq_none_iff {t : String} {entries : List (Datum × Datum)} :
    lookup? (text t) entries = none ↔ ∀ entry ∈ entries, entry.1 ≠ text t := by
  simp [lookup?, List.find?_eq_none, sameKey_text_iff]

/-- Behind its entry a text is no key. -/
theorem Distinct.lookup?_eq_none {t : String} {d : Datum} {rest : List (Datum × Datum)}
    (h : Distinct ((text t, d) :: rest)) : lookup? (text t) rest = none := by
  rw [lookup?_eq_none_iff]
  intro entry hentry heq
  have hsame := (List.pairwise_cons.mp h).1 entry hentry
  simp [heq, sameKey_text] at hsame

/-- What is put under another key does not touch a text. -/
theorem lookup?_insert_of_key_ne {k : Datum} {t : String} (h : k ≠ text t) (value : Datum)
    (entries : List (Datum × Datum)) : lookup? (text t) (insert k value entries) = lookup? (text t) entries := by
  rw [lookup?_insert, if_neg fun hsame => h (sameKey_text_iff.mp hsame)]

/-- The keys of a map in which something is put. -/
theorem key_of_mem_insert {k value : Datum} {entries : List (Datum × Datum)} {entry : Datum × Datum}
    (h : entry ∈ insert k value entries) : entry.1 = k ∨ entry.1 ∈ entries.map (·.1) := by
  induction entries with
  | nil => exact .inl (by rw [List.mem_singleton.mp h])
  | cons e rest ih =>
      rw [insert] at h
      split at h
      · rcases List.mem_cons.mp h with rfl | h
        · exact .inr List.mem_cons_self
        · exact .inr (List.mem_cons_of_mem _ (List.mem_map_of_mem h))
      · rcases List.mem_cons.mp h with rfl | h
        · exact .inr List.mem_cons_self
        · exact (ih h).imp_right (List.mem_cons_of_mem _)

/-- The values of a map in which something is put. -/
theorem value_of_mem_insert {k value : Datum} {entries : List (Datum × Datum)} {entry : Datum × Datum}
    (h : entry ∈ insert k value entries) : entry.2 = value ∨ entry ∈ entries := by
  induction entries with
  | nil => exact .inl (by rw [List.mem_singleton.mp h])
  | cons e rest ih =>
      rw [insert] at h
      split at h
      · rcases List.mem_cons.mp h with rfl | h
        · exact .inl rfl
        · exact .inr (List.mem_cons_of_mem _ h)
      · rcases List.mem_cons.mp h with rfl | h
        · exact .inr List.mem_cons_self
        · exact (ih h).imp_right (List.mem_cons_of_mem _)

/-- A key that is put into a map is not there twice afterwards. -/
theorem Distinct.insert {entries : List (Datum × Datum)} (h : Distinct entries) (k value : Datum) :
    Distinct (insert k value entries) := by
  induction entries with
  | nil => exact List.pairwise_singleton _ _
  | cons e rest ih =>
      obtain ⟨hfirst, hrest⟩ := List.pairwise_cons.mp h
      rw [Datum.insert]
      split
      · exact List.pairwise_cons.mpr ⟨hfirst, hrest⟩
      · rename_i hkey
        refine List.pairwise_cons.mpr ⟨fun entry hentry => ?_, ih hrest⟩
        rcases key_of_mem_insert hentry with hown | hold
        · rw [hown]
          simpa using hkey
        · obtain ⟨entry', hentry', heq⟩ := List.mem_map.mp hold
          rw [← heq]
          exact hfirst entry' hentry'

/-- A datum whose maps have no key twice, nor have the maps inside of them. -/
inductive Proper : Datum → Prop
  | plain {d : Datum} (h : d.entries? = none) : Proper d
  | map {entries : List (Datum × Datum)} (hkeys : Distinct entries) (hvalues : ∀ entry ∈ entries, Proper entry.2) :
      Proper (.map entries)

namespace Proper

theorem distinct {entries : List (Datum × Datum)} (h : Proper (.map entries)) : Distinct entries := by
  cases h with
  | plain h => cases h
  | map hkeys _ => exact hkeys

theorem of_mem {entries : List (Datum × Datum)} (h : Proper (.map entries)) {entry : Datum × Datum}
    (hentry : entry ∈ entries) : Proper entry.2 := by
  cases h with
  | plain h => cases h
  | map _ hvalues => exact hvalues entry hentry

theorem of_lookup? {entries : List (Datum × Datum)} (h : Proper (.map entries)) {t : String} {d : Datum}
    (hd : lookup? (text t) entries = some d) : Proper d :=
  h.of_mem (mem_of_lookup? hd)

theorem nil : Proper (.map []) :=
  .map List.Pairwise.nil (by simp)

theorem insert {entries : List (Datum × Datum)} (h : Proper (.map entries)) (k : Datum) {value : Datum}
    (hvalue : Proper value) : Proper (.map (Datum.insert k value entries)) :=
  .map (h.distinct.insert k value) fun _ hentry => (value_of_mem_insert hentry).elim (· ▸ hvalue) h.of_mem

end Proper

/-! ## Maps from names -/

/-- What lies under a text in a map from names. -/
theorem lookup?_fields (t : String) (fields : List (String × Datum)) :
    lookup? (text t) (fields.map fun (name, value) => (text name, value)) = fields.lookup t := by
  induction fields with
  | nil => rfl
  | cons field rest ih =>
      obtain ⟨name, value⟩ := field
      rw [List.map_cons, List.lookup_cons, ← ih, lookup?, lookup?, List.find?_cons, sameKey_text, BEq.comm]
      cases t == name <;> rfl

/-- A map from different names has no key twice. -/
theorem distinct_fields {fields : List (String × Datum)} (h : (fields.map (·.1)).Nodup) :
    Distinct (fields.map fun (name, value) => (text name, value)) := by
  rw [Distinct, List.pairwise_map]
  exact (List.pairwise_map.mp h).imp fun hne => by rw [sameKey_text]; exact beq_eq_false_iff_ne.mpr hne

/-- A map from different names to proper data is proper. -/
theorem Proper.fields {fields : List (String × Datum)} (h : (fields.map (·.1)).Nodup)
    (hvalues : ∀ field ∈ fields, Proper field.2) : Proper (object fields) := by
  refine .map (distinct_fields h) fun entry hentry => ?_
  obtain ⟨field, hfield, rfl⟩ := List.mem_map.mp hentry
  exact hvalues field hfield

/-- What lies under a name that is among those of which each may have something. -/
theorem lookup_filterMap (find : String → Option Datum) (t : String) (names : List String) :
    (names.filterMap fun name => (find name).map (name, ·)).lookup t = if t ∈ names then find t else none := by
  induction names with
  | nil => rfl
  | cons name rest ih =>
      by_cases hname : t = name
      · subst hname
        cases hfind : find t with
        | none => simp [hfind, ih]
        | some d => simp [hfind]
      · have hne : (t == name) = false := beq_eq_false_iff_ne.mpr hname
        cases hfind : find name <;> simp [hfind, ih, List.lookup_cons, hne, hname]

/-- The names that have something are among all. -/
theorem map_fst_filterMap_sublist (find : String → Option Datum) (names : List String) :
    ((names.filterMap fun name => (find name).map (name, ·)).map (·.1)).Sublist names := by
  induction names with
  | nil => exact List.Sublist.refl []
  | cons name rest ih =>
      cases hfind : find name with
      | none => simpa [hfind] using ih.cons name
      | some d => simpa [hfind] using ih.cons_cons name

end Datum

end MetaSearch
