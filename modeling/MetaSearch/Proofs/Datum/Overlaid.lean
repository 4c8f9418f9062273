import Mathlib.Data.List.Induction
import MetaSearch.Proofs.Datum.Pathwise

/-!
# What lies at a path of names

The paths of settings are made of names, so their keys are texts.  What lies at such a path is what lies at the path of
those keys (`saying_eq_sayingOf`).

* `at?_overlay` is one datum laid over another: what the upper one says counts, and only where it is silent the lower one is
  asked.
* `at?_foldl_overlay` is a whole stack: the topmost datum that is not silent decides (`topmost?`).
* Overlays of proper data are proper (`Proper.overlay`).
-/

namespace MetaSearch.Datum

/-! ## Maps -/

/-- The keys of a map laid over another. -/
theorem key_of_mem_overlayEntries {lower upper : List (Datum × Datum)} {entry : Datum × Datum}
    (h : entry ∈ overlayEntries lower upper) : entry.1 ∈ lower.map (·.1) ∨ entry.1 ∈ upper.map (·.1) := by
  induction upper generalizing lower with
  | nil => exact .inl (List.mem_map_of_mem h)
  | cons e rest ih =>
      obtain ⟨k, u⟩ := e
      rw [overlayEntries_cons] at h
      rcases ih h with hkey | hkey
      · obtain ⟨entry', hentry', heq⟩ := List.mem_map.mp hkey
        rcases key_of_mem_insert hentry' with hown | hold
        · exact .inr (List.mem_cons.mpr (.inl (heq ▸ hown)))
        · exact .inl (heq ▸ hold)
      · exact .inr (List.mem_cons_of_mem _ hkey)

/-- A map laid over nothing. -/
theorem overlayEntries_nil {upper : List (Datum × Datum)} (h : Distinct upper) : overlayEntries [] upper = upper := by
  have hbehind : ∀ (done rest : List (Datum × Datum)), Distinct (done ++ rest) →
      overlayEntries done rest = done ++ rest := by
    intro done rest
    induction rest generalizing done with
    | nil => exact fun _ => (List.append_nil done).symm
    | cons e rest ih =>
        intro hdistinct
        obtain ⟨k, u⟩ := e
        have hnew : ∀ entry ∈ done, entry.1.sameKey k = false := fun entry hentry =>
          (List.pairwise_append.mp hdistinct).2.2 entry hentry (k, u) List.mem_cons_self
        have hlookup : lookup? k done = none := by
          rw [lookup?, List.find?_eq_none.mpr fun entry hentry => by simp [hnew entry hentry]]
          rfl
        have hinsert : insert k u done = done ++ [(k, u)] := by
          clear ih hdistinct hlookup
          induction done with
          | nil => rfl
          | cons e done ih =>
              rw [insert, if_neg (by simp [hnew e List.mem_cons_self]),
                ih fun entry hentry => hnew entry (List.mem_cons_of_mem e hentry)]
              rfl
        rw [List.append_cons done (k, u) rest] at hdistinct ⊢
        rw [overlayEntries_cons, hlookup, hinsert]
        exact ih _ hdistinct
  exact hbehind [] upper h

/-! ## Paths -/

/-- What a datum says at a path of text keys. -/
def saying : Datum → List String → Saying
  | d, [] => .gives d
  | .map entries, t :: path =>
    match lookup? (text t) entries with
    | some d => saying d path
    | none => .silent
  | _, _ :: _ => .hidden

/-- What lies at a path of text keys. -/
def at? (d : Datum) (path : List String) : Option Datum :=
  (saying d path).datum?

@[simp] theorem at?_nil (d : Datum) : at? d [] = some d := by
  cases d <;> rfl

@[simp] theorem saying_nil (d : Datum) : saying d [] = .gives d := by
  cases d <;> rfl

theorem saying_map (entries : List (Datum × Datum)) (t : String) (path : List String) :
    saying (.map entries) (t :: path) =
      match lookup? (text t) entries with
      | some d => saying d path
      | none => .silent :=
  rfl

theorem at?_map (entries : List (Datum × Datum)) (t : String) (path : List String) :
    at? (.map entries) (t :: path) = (lookup? (text t) entries).bind (at? · path) := by
  rw [at?, saying_map]
  cases lookup? (text t) entries <;> rfl

theorem at?_singleton (entries : List (Datum × Datum)) (t : String) : at? (.map entries) [t] = lookup? (text t) entries := by
  rw [at?_map]
  cases lookup? (text t) entries <;> simp

/-- What is said at a path of names is what is said at the path of their keys. -/
theorem saying_eq_sayingOf (d : Datum) (path : List String) : saying d path = sayingOf d (path.map text) := by
  induction path generalizing d with
  | nil => rw [saying_nil, List.map_nil, sayingOf_nil]
  | cons t path ih =>
      cases d with
      | map entries =>
          rw [saying_map, List.map_cons, sayingOf_map]
          cases lookup? (text t) entries with
          | none => rfl
          | some e => exact ih e
      | _ => rfl

theorem at?_eq_valueAt? (d : Datum) (path : List String) : at? d path = valueAt? d (path.map text) := by
  rw [at?, valueAt?, saying_eq_sayingOf]

/-- What lies behind a place is what lies at a path from there. -/
theorem at?_append (d : Datum) (front rest : List String) : at? d (front ++ rest) = (at? d front).bind (at? · rest) := by
  simp only [at?_eq_valueAt?, List.map_append, valueAt?_append]

/-- What lies at a path of a proper datum is proper. -/
theorem Proper.of_at? {d e : Datum} {path : List String} (h : Proper d) (he : at? d path = some e) : Proper e :=
  h.of_valueAt? (at?_eq_valueAt? d path ▸ he)

/-- Nothing lies behind something else than a map. -/
theorem saying_of_not_map {d : Datum} (h : d.entries? = none) (t : String) (path : List String) :
    saying d (t :: path) = .hidden := by
  cases d <;> first | rfl | cases h

theorem at?_of_not_map {d : Datum} (h : d.entries? = none) (t : String) (path : List String) : at? d (t :: path) = none := by
  rw [at?, saying_of_not_map h]
  rfl

/-- **What lies at a path of one datum laid over another.**  What the upper one says counts, with the lower one under it
where both say maps; behind what the upper one hides nothing lies; and where it is silent the lower one is asked. -/
theorem at?_overlay {upper : Datum} (h : Proper upper) (lower : Datum) (path : List String) :
    at? (overlay lower upper) path =
      match saying upper path with
      | .gives u => some (match at? lower path with
        | some l => overlay l u
        | none => u)
      | .hidden => none
      | .silent => at? lower path := by
  have hlaid := valueAt?_overlay h lower (path.map text)
  rw [at?_eq_valueAt?, at?_eq_valueAt?, saying_eq_sayingOf]
  cases hsaying : sayingOf upper (path.map text) with
  | gives u | hidden | silent =>
      rw [hsaying] at hlaid
      exact hlaid

/-! ## Stacks -/

/-- What the topmost datum that is not silent at a path says there; the data stand from the top to the bottom. -/
def topmost? (path : List String) : List Datum → Option Datum
  | [] => none
  | d :: below =>
    match saying d path with
    | .gives u => some u
    | .hidden => none
    | .silent => topmost? path below

/-- Where nothing is hidden, that is what lies in the topmost datum in which something does. -/
theorem topmost?_eq_findSome? {path : List String} {ds : List Datum} (h : ∀ d ∈ ds, saying d path ≠ .hidden) :
    topmost? path ds = ds.findSome? (at? · path) := by
  induction ds with
  | nil => rfl
  | cons d below ih =>
      rw [List.findSome?_cons, topmost?, ih fun e he => h e (List.mem_cons_of_mem d he), at?]
      cases hd : saying d path with
      | silent => rfl
      | hidden => exact absurd hd (h d List.mem_cons_self)
      | gives u => rfl

/-- A datum at the bottom that is silent does not count. -/
theorem topmost?_append_silent {path : List String} {base : Datum} (h : saying base path = .silent) (ds : List Datum) :
    topmost? path (ds ++ [base]) = topmost? path ds := by
  induction ds with
  | nil =>
      rw [List.nil_append, topmost?.eq_def]
      simp only [h]
  | cons d below ih => rw [List.cons_append, topmost?, topmost?, ih]

/-- **What lies at a path of a stack.**  The topmost datum that is not silent there decides; a map is laid over what the
data under it have made. -/
theorem exists_at?_foldl_overlay (base : Datum) {layers : List Datum} (h : ∀ d ∈ layers, Proper d) (path : List String) :
    ∃ lower, at? (layers.foldl overlay base) path = (topmost? path (layers.reverse ++ [base])).map (overlay lower) := by
  induction layers using List.reverseRecOn with
  | nil =>
      refine ⟨.null, ?_⟩
      rw [List.foldl_nil, List.reverse_nil, List.nil_append, topmost?, at?]
      cases saying base path with
      | gives u => exact congrArg some (overlay_on_not_map rfl u).symm
      | hidden => rfl
      | silent => rfl
  | append_singleton layers top ih =>
      obtain ⟨lower, ih⟩ := ih fun d hd => h d (List.mem_append_left _ hd)
      rw [List.foldl_append, List.foldl_cons, List.foldl_nil, List.reverse_concat, List.cons_append, topmost?,
        at?_overlay (h top (List.mem_append_right _ List.mem_cons_self))]
      cases saying top path with
      | silent => exact ⟨lower, ih⟩
      | hidden => exact ⟨.null, rfl⟩
      | gives u =>
          cases at? (layers.foldl overlay base) path with
          | none => exact ⟨.null, congrArg some (overlay_on_not_map rfl u).symm⟩
          | some l => exact ⟨l, rfl⟩

/-- What lies somewhere, if anything does, is no map. -/
def NoMap (d : Option Datum) : Prop :=
  ∀ e, d = some e → e.entries? = none

/-- What is no map hides what it is laid over. -/
theorem NoMap.map_overlay {d : Option Datum} (h : NoMap d) (lower : Datum) : d.map (overlay lower) = d := by
  cases d with
  | none => rfl
  | some e => rw [Option.map_some, overlay_of_not_map lower (h e rfl)]

/-- Only a map becomes a map when it is laid over something. -/
theorem NoMap.of_map_overlay {d : Option Datum} {lower : Datum} (h : NoMap (d.map (overlay lower))) : NoMap d := by
  rintro e rfl
  have hover : (overlay lower e).entries? = none := h _ rfl
  cases e with
  | map more => cases lower <;> simp [overlay, entries?] at hover
  | _ => rfl

/-- What lies at a path of a stack and is no map is what the topmost datum has there. -/
theorem at?_foldl_overlay {base : Datum} {layers : List Datum} (h : ∀ d ∈ layers, Proper d) {path : List String}
    (hplain : NoMap (at? (layers.foldl overlay base) path)) :
    at? (layers.foldl overlay base) path = topmost? path (layers.reverse ++ [base]) := by
  obtain ⟨lower, heq⟩ := exists_at?_foldl_overlay base h path
  rw [heq] at hplain ⊢
  exact hplain.of_map_overlay.map_overlay lower

/-- What holds of all that lies at a path of the data of a stack holds of what lies there in the stack, if it is kept when
such data are laid over one another. -/
theorem at?_foldl_overlay_induction {motive : Datum → Prop} (hstep : ∀ l u, motive l → motive u → motive (overlay l u))
    {layers : List Datum} (hlayers : ∀ d ∈ layers, Proper d) {path : List String} {base : Datum}
    (h : ∀ d ∈ base :: layers, ∀ e, at? d path = some e → motive e) {e : Datum}
    (he : at? (layers.foldl overlay base) path = some e) : motive e := by
  induction layers generalizing base with
  | nil => exact h base List.mem_cons_self e he
  | cons layer layers ih =>
      obtain ⟨hlayer, hrest⟩ := List.forall_mem_cons.mp hlayers
      obtain ⟨hbase, hall⟩ := List.forall_mem_cons.mp h
      obtain ⟨hfirst, hothers⟩ := List.forall_mem_cons.mp hall
      refine ih hrest (List.forall_mem_cons.mpr ⟨fun d hd => ?_, hothers⟩) he
      rw [at?_overlay hlayer] at hd
      split at hd
      · rename_i u hu
        have hmotive : motive u := hfirst u (by rw [at?, hu]; rfl)
        split at hd
        · exact Option.some.inj hd ▸ hstep _ u (hbase _ ‹_›) hmotive
        · exact Option.some.inj hd ▸ hmotive
      · cases hd
      · exact hbase d hd

mutual

/-- Proper data laid over one another are proper. -/
theorem Proper.overlay : ∀ {lower upper : Datum}, Proper lower → Proper upper → Proper (Datum.overlay lower upper)
  | lower, .map more, hlower, hupper => by
      cases lower with
      | map entries =>
          rw [Datum.overlay]
          exact Proper.overlayEntries hlower hupper
      | _ => exact hupper
  | _, .null, _, _ => .plain rfl
  | _, .bool _, _, _ => .plain rfl
  | _, .int _, _, _ => .plain rfl
  | _, .float _, _, _ => .plain rfl
  | _, .text _, _, _ => .plain rfl
  | _, .list _, _, _ => .plain rfl
  | _, .date _, _, _ => .plain rfl
  | _, .stamp _, _, _ => .plain rfl
  | _, .bytes _, _, _ => .plain rfl

/-- Proper maps laid over one another are proper. -/
theorem Proper.overlayEntries : ∀ {lower upper : List (Datum × Datum)}, Proper (.map lower) → Proper (.map upper) →
    Proper (.map (Datum.overlayEntries lower upper))
  | _, [], hlower, _ => hlower
  | lower, (k, u) :: rest, hlower, hupper => by
      have hu : Proper u := hupper.of_mem List.mem_cons_self
      have hrest : Proper (.map rest) := .map (List.pairwise_cons.mp hupper.distinct).2 fun entry hentry =>
        hupper.of_mem (List.mem_cons_of_mem _ hentry)
      rw [overlayEntries_cons]
      refine Proper.overlayEntries (hlower.insert k ?_) hrest
      cases hl : lookup? k lower with
      | none => exact hu
      | some l =>
          obtain ⟨entry, hfind, rfl⟩ := Option.map_eq_some_iff.mp hl
          exact Proper.overlay (hlower.of_mem (List.mem_of_find?_eq_some hfind)) hu

end

/-- A stack of proper data is proper. -/
theorem Proper.foldl_overlay {base : Datum} {layers : List Datum} (hbase : Proper base) (h : ∀ d ∈ layers, Proper d) :
    Proper (layers.foldl Datum.overlay base) :=
  List.foldlRecOn layers Datum.overlay hbase fun _ hlower upper hupper => hlower.overlay (h upper hupper)

end MetaSearch.Datum
