import MetaSearch.Config.Layer
import MetaSearch.Proofs.Datum.Overlaid

/-!
# What a stack of layers makes

Layers are laid over a lowest one in order, and each may have anything at a path of keys: a map, something else, or nothing.
At every path the last one that has something there counts, as `LastCounts` spells out, whatever the depth and whatever
stands against what on the way.

Of a layer that is laid over others a path sees one of three things (`Datum.valueAt?_overlay`), and layers that are silent
at a path do not change what lies there (`valueAt?_stacked_of_silent`).  What lies at a path of a stack hangs on nothing but
what lay there before (`valueAt?_stacked_congr`), so a layer that hides a path makes all layers under it forgotten.
-/

namespace MetaSearch.Config.Layer

open Datum

variable {base : Entries} {layers : List Entries} {path : List Datum}

/-- A layer has something else than a map on the way to a path. -/
def Blocks (layer : Entries) (path : List Datum) : Prop :=
  ∃ front rest u, path = front ++ rest ∧ rest ≠ [] ∧ valueAt? (.map layer) front = some u ∧ u.entries? = none

/-- The last layer that has something at a path counts. -/
structure LastCounts (base : Entries) (layers : List Entries) (path : List Datum) : Prop where
  /-- What is there is what the last that has anything there has, if that is no map and none behind it blocks the path. -/
  last : ∀ before layer after v, base :: layers = before ++ layer :: after → valueAt? (.map layer) path = some v →
    v.entries? = none → (∀ later ∈ after, valueAt? (.map later) path = none ∧ ¬ Blocks later path) →
    valueAt? (.map (stacked base layers)) path = some v
  /-- At and below something else than a map nothing is seen of what was there before. -/
  forgotten : ∀ before layer after front u, layers = before ++ layer :: after → valueAt? (.map layer) front = some u →
    u.entries? = none → front <+: path →
    valueAt? (.map (stacked base layers)) path = valueAt? (.map (stacked [] (layer :: after))) path
  /-- A map that meets a map keeps the keys of both. -/
  joined : ∀ before layer after lower upper, layers = before ++ layer :: after →
    valueAt? (.map (stacked base before)) path = some (.map lower) → valueAt? (.map layer) path = some (.map upper) →
    ∃ both, valueAt? (.map (stacked base (before ++ [layer]))) path = some (.map both) ∧
      ∀ key, (lookup? key both).isSome = true ↔ (lookup? key lower).isSome = true ∨ (lookup? key upper).isSome = true
  /-- Nothing lies where neither the lowest nor any layer has anything. -/
  made : ∀ v, valueAt? (.map (stacked base layers)) path = some v →
    ∃ layer ∈ base :: layers, ∃ u, valueAt? (.map layer) path = some u

theorem stacked_cons (base layer : Entries) (layers : List Entries) :
    stacked base (layer :: layers) = stacked (overlayEntries base layer) layers :=
  rfl

theorem stacked_append (base : Entries) (first second : List Entries) :
    stacked base (first ++ second) = stacked (stacked base first) second :=
  List.foldl_append

/-- A layer that has nothing at a path and does not block it is silent there. -/
theorem sayingOf_eq_silent {layer : Entries} (hnone : valueAt? (.map layer) path = none) (hblocks : ¬ Blocks layer path) :
    sayingOf (.map layer) path = .silent := by
  cases hsaying : sayingOf (.map layer) path with
  | silent => rfl
  | hidden => exact absurd (sayingOf_eq_hidden_iff.mp hsaying) hblocks
  | gives u => rw [valueAt?_eq_some_iff.mpr hsaying] at hnone; cases hnone

/-- Layers that are silent at a path change nothing there. -/
theorem valueAt?_stacked_of_silent (hproper : ∀ layer ∈ layers, Proper (.map layer))
    (hsilent : ∀ layer ∈ layers, sayingOf (.map layer) path = .silent) (base : Entries) :
    valueAt? (.map (stacked base layers)) path = valueAt? (.map base) path := by
  induction layers generalizing base with
  | nil => rfl
  | cons layer layers ih =>
      obtain ⟨hlayer, hrest⟩ := List.forall_mem_cons.mp hproper
      obtain ⟨hfirst, hothers⟩ := List.forall_mem_cons.mp hsilent
      rw [stacked_cons, ih hrest hothers, ← overlay, valueAt?_overlay hlayer, hfirst]

/-- What lies at a path of a stack hangs on nothing but what lies there at the bottom. -/
theorem valueAt?_stacked_congr {other : Entries} (hproper : ∀ layer ∈ layers, Proper (.map layer))
    (h : valueAt? (.map base) path = valueAt? (.map other) path) :
    valueAt? (.map (stacked base layers)) path = valueAt? (.map (stacked other layers)) path := by
  induction layers generalizing base other with
  | nil => exact h
  | cons layer layers ih =>
      obtain ⟨hlayer, hrest⟩ := List.forall_mem_cons.mp hproper
      refine ih hrest ?_
      rw [← overlay, ← overlay, valueAt?_overlay hlayer, valueAt?_overlay hlayer, h]

/-- What a layer that is no map at or above a path makes of it does not hang on what it is laid over. -/
theorem valueAt?_overlayEntries_of_block {layer : Entries} (hlayer : Proper (.map layer)) {front : List Datum} {u : Datum}
    (hu : valueAt? (.map layer) front = some u) (hplain : u.entries? = none) (hfront : front <+: path)
    (lower other : Entries) :
    valueAt? (.map (overlayEntries lower layer)) path = valueAt? (.map (overlayEntries other layer)) path := by
  obtain ⟨rest, rfl⟩ := hfront
  rw [← overlay, ← overlay, valueAt?_overlay hlayer, valueAt?_overlay hlayer]
  cases rest with
  | nil =>
      rw [List.append_nil, valueAt?_eq_some_iff.mp hu]
      cases valueAt? (.map lower) front <;> cases valueAt? (.map other) front <;> simp [overlay_of_not_map _ hplain]
  | cons key rest =>
      rw [sayingOf_eq_hidden_iff.mpr ⟨front, key :: rest, u, rfl, List.cons_ne_nil key rest, hu, hplain⟩]

/-- What lies at a path of a stack was there at the bottom or in a layer. -/
theorem exists_valueAt?_of_stacked (hproper : ∀ layer ∈ layers, Proper (.map layer)) {v : Datum}
    (h : valueAt? (.map (stacked base layers)) path = some v) :
    ∃ layer ∈ base :: layers, ∃ u, valueAt? (.map layer) path = some u := by
  induction layers generalizing base with
  | nil => exact ⟨base, List.mem_cons_self, v, h⟩
  | cons layer layers ih =>
      obtain ⟨hlayer, hrest⟩ := List.forall_mem_cons.mp hproper
      obtain ⟨found, hfound, u, hu⟩ := ih hrest h
      rcases List.mem_cons.mp hfound with rfl | hfound
      · rw [← overlay, valueAt?_overlay hlayer] at hu
        split at hu
        · rename_i w hw
          exact ⟨layer, by simp, w, valueAt?_eq_some_iff.mpr hw⟩
        · cases hu
        · exact ⟨base, List.mem_cons_self, u, hu⟩
      · exact ⟨found, by simp [hfound], u, hu⟩

/-- **At every path of a stack the last layer that has something there counts.** -/
theorem lastCounts_stacked (base : Entries) {layers : List Entries} (hproper : ∀ layer ∈ layers, Proper (.map layer))
    (path : List Datum) : LastCounts base layers path := by
  constructor
  case last =>
    intro before layer after v hsplit hv hplain hafter
    have hsilent : ∀ later ∈ after, sayingOf (.map later) path = .silent := fun later hlater =>
      sayingOf_eq_silent (hafter later hlater).1 (hafter later hlater).2
    cases before with
    | nil =>
        obtain ⟨rfl, rfl⟩ := List.cons.inj hsplit
        rw [valueAt?_stacked_of_silent hproper hsilent, hv]
    | cons lowest before =>
        rw [List.cons_append] at hsplit
        obtain ⟨rfl, rfl⟩ := List.cons.inj hsplit
        rw [stacked_append, stacked_cons, valueAt?_stacked_of_silent (fun later hlater => hproper later (by simp [hlater]))
          hsilent, ← overlay, valueAt?_overlay (hproper layer (by simp)), valueAt?_eq_some_iff.mp hv]
        cases valueAt? (.map (stacked base before)) path <;> simp [overlay_of_not_map _ hplain]
  case forgotten =>
    rintro before layer after front u rfl hu hplain hfront
    rw [stacked_append, stacked_cons, stacked_cons]
    exact valueAt?_stacked_congr (fun later hlater => hproper later (by simp [hlater]))
      (valueAt?_overlayEntries_of_block (hproper layer (by simp)) hu hplain hfront _ _)
  case joined =>
    rintro before layer after lower upper rfl hlower hupper
    have hlayer : Proper (.map layer) := hproper layer (by simp)
    refine ⟨overlayEntries lower upper, ?_, isSome_lookup?_overlayEntries (hlayer.of_valueAt? hupper).distinct lower⟩
    have htop : Datum.map (stacked base (before ++ [layer])) = overlay (.map (stacked base before)) (.map layer) := by
      rw [stacked_append, overlay]
      rfl
    rw [htop, valueAt?_overlay hlayer, valueAt?_eq_some_iff.mp hupper, hlower]
    exact congrArg some (overlay.eq_1 _ _)
  case made => exact fun v hv => exists_valueAt?_of_stacked hproper hv

/-- A map gives way to a number and the number to a map again: of the first map nothing is seen, and what stands beside it
stays. -/
theorem lastCounts_stacked_clash :
    let base : Entries := [(.text "a", object [("x", .int 1), ("y", object [("z", .int 2)])])]
    let number : Entries := [(.text "a", object [("y", .int 5)])]
    let again : Entries := [(.text "a", object [("y", object [("w", .null)])])]
    (∀ layer ∈ [number, again], Proper (.map layer)) ∧ (∀ path, LastCounts base [number, again] path) ∧
      valueAt? (.map (stacked base [number, again])) [.text "a", .text "x"] = some (.int 1) ∧
      valueAt? (.map (stacked base [number, again])) [.text "a", .text "y", .text "w"] = some .null ∧
      valueAt? (.map (stacked base [number, again])) [.text "a", .text "y", .text "z"] = none := by
  intro base number again
  have hproper : ∀ layer ∈ [number, again], Proper (.map layer) := by
    have hsingle : ∀ (name : String) {d : Datum}, Proper d → Proper (object [(name, d)]) := fun name d hd =>
      Proper.fields (List.nodup_singleton name) (List.forall_mem_singleton.mpr hd)
    exact List.forall_mem_cons.mpr ⟨hsingle "a" (hsingle "y" (.plain rfl)),
      List.forall_mem_singleton.mpr (hsingle "a" (hsingle "y" (hsingle "w" (.plain rfl))))⟩
  exact ⟨hproper, fun path => lastCounts_stacked base hproper path, rfl, rfl, rfl⟩

end MetaSearch.Config.Layer
