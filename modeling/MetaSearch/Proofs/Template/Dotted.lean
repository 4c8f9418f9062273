import MetaSearch.Template.Environment
import MetaSearch.Proofs.Text.Parts

/-!
# Names with points

A name with points stands for the variable of that very name, or else for what the parts after its first point lead to
in the variable that its first part names (`LeadsTo`).  Where the points of a name lead to a map, one more part leads to
the values in it (`LeadsTo.key`).

But a variable may have points in its own name, such as a field of the row or a setting, and no walk begins at one of
these (`has_eq_false_of_first`).  So a map that is such a variable is found, while what it holds is not
(`published_map_closed`).  The main result is `resolve_key`: which values of a map are found under the name of the map
with the key behind it.
-/

namespace MetaSearch

namespace Text

/-- Where a text is cut at its first point. -/
theorem cutAt?_point_eq_some {s head rest : String} :
    cutAt? "." s = some (head, rest) ↔ '.' ∉ head.toList ∧ s = head ++ "." ++ rest := by
  rw [cutAt?, Option.map_eq_some_iff]
  constructor
  · rintro ⟨⟨front, back⟩, hcut, heq⟩
    obtain ⟨rfl, rfl⟩ := Prod.mk.inj heq
    refine ⟨?_, ?_⟩
    · rw [String.toList_ofList]
      exact not_mem_front_of_cut? hcut
    · apply String.toList_injective
      simpa using eq_append_of_cut? hcut
  · rintro ⟨hhead, rfl⟩
    refine ⟨(head.toList, rest.toList), ?_, by simp⟩
    have hcut := cut?_append hhead rest.toList
    simpa using hcut

/-- A part without points that is put behind a text is its last part. -/
theorem split_point_append (s : String) {part : String} (hpart : '.' ∉ part.toList) :
    split "." (s ++ "." ++ part) = split "." s ++ [part] := by
  have hsplit := splitOn_append '.' s.toList part.toList
  rw [splitOn_of_not_mem hpart] at hsplit
  simp only [split, String.toList_append, List.append_assoc]
  change (splitOn ['.'] (s.toList ++ '.' :: part.toList)).map String.ofList = _
  rw [hsplit, List.map_append]
  simp

/-- A text that ends in a point has no part without points behind its last point. -/
theorem eq_of_append_point {s head part : String} (hpart : '.' ∉ part.toList) (h : s ++ "." ++ part = head ++ ".") :
    s = head := by
  have hchars : s.toList ++ '.' :: part.toList = head.toList ++ ['.'] := by
    have hlist := congrArg String.toList h
    simpa using hlist
  rcases List.eq_nil_or_concat part.toList with hnil | ⟨front, last, hlast⟩
  · rw [hnil] at hchars
    exact String.toList_injective (List.append_cancel_right hchars)
  · rw [hlast, List.concat_eq_append, ← List.cons_append, ← List.append_assoc] at hchars
    have hpoint : last = '.' := by simpa using (List.append_inj_right' hchars rfl)
    rw [hlast, hpoint] at hpart
    simp at hpart

end Text

namespace Datum

/-- A value in a map is not the map. -/
theorem ne_map_of_lookup? {key v : Datum} {entries : List (Datum × Datum)} (h : lookup? key entries = some v) :
    v ≠ .map entries := by
  obtain ⟨⟨k, w⟩, hentry, rfl⟩ := Option.map_eq_some_iff.mp h
  have hmem := List.mem_of_find?_eq_some hentry
  intro heq
  have hsize := List.sizeOf_lt_of_mem hmem
  have hwhole := congrArg sizeOf heq
  simp only [Prod.mk.sizeOf_spec, map.sizeOf_spec] at hsize hwhole
  omega

end Datum

namespace Environment

/-! ## Walking -/

theorem walk_append (d : Datum) (parts more : List String) :
    walk d (parts ++ more) = (walk d parts).bind (walk · more) := by
  induction parts generalizing d with
  | nil => rfl
  | cons part parts ih =>
      rw [List.cons_append, walk, walk, Option.bind_assoc]
      exact congrArg _ (funext fun inner => ih inner)

/-- The parts of a name behind its first point lead to a value in the variable that the first part names. -/
def LeadsTo (env : Environment) (name : String) (v : Datum) : Prop :=
  ∃ head rest d, '.' ∉ head.toList ∧ name = head ++ "." ++ rest ∧ rest ≠ "" ∧ env.get? head = some d ∧
    walk d (Text.split "." rest) = some v

/-- **One part more leads on into a map.** -/
theorem LeadsTo.key {env : Environment} {name key : String} {entries : List (Datum × Datum)} {v : Datum}
    (h : env.LeadsTo name (.map entries)) (hv : Datum.lookup? (.text key) entries = some v)
    (hkey : '.' ∉ key.toList) : env.LeadsTo (name ++ "." ++ key) v := by
  obtain ⟨head, rest, d, hhead, rfl, hrest, hget, hwalk⟩ := h
  refine ⟨head, rest ++ "." ++ key, d, hhead, by simp [String.append_assoc], ?_, hget, ?_⟩
  · intro hempty
    have hlength := congrArg String.length hempty
    simp [String.length_append] at hlength
  · rw [Text.split_point_append rest hkey, walk_append, hwalk]
    simpa [walk, Datum.get?] using hv

/-! ## Looking up -/

/-- Only points in front of a name are passed over. -/
theorem bare_append {name : String} (h : bare name ≠ "") (s : String) : bare (name ++ s) = bare name ++ s := by
  have hsome : name.toList.dropWhile (· == '.') ≠ [] := fun hnil => h (by rw [bare, hnil])
  apply String.toList_injective
  rw [bare, String.toList_ofList, String.toList_append, String.toList_append, bare, String.toList_ofList,
    List.dropWhile_append, if_neg (mt List.isEmpty_iff.mp hsome)]

theorem lookup?_of_get? {env : Environment} {path : String} {v : Datum} (hbare : bare path ≠ "")
    (h : env.get? (bare path) = some v) : env.lookup? path = some v := by
  simp [lookup?, hbare, h]

/-- What a name stands for when it is no variable's own name: what its points lead to, or the variable in front of a
point at its end. -/
theorem lookup?_eq_some_iff {env : Environment} {path : String} {v : Datum} (hbare : bare path ≠ "")
    (h : env.get? (bare path) = none) : env.lookup? path = some v ↔
      env.LeadsTo (bare path) v ∨ ∃ head, '.' ∉ head.toList ∧ bare path = head ++ "." ∧ env.get? head = some v := by
  rw [lookup?, if_neg (by simpa using hbare), h]
  dsimp only
  constructor
  · intro hlookup
    cases hcut : Text.cutAt? "." (bare path) with
    | none => simp [hcut] at hlookup
    | some cut =>
        obtain ⟨head, rest⟩ := cut
        obtain ⟨hhead, hpath⟩ := Text.cutAt?_point_eq_some.mp hcut
        cases hget : env.get? head with
        | none => simp [hcut, hget] at hlookup
        | some d =>
            by_cases hrest : rest = ""
            · subst hrest
              have hd : d = v := by simpa [hcut, hget] using hlookup
              exact .inr ⟨head, hhead, by simpa using hpath, by rw [hget, hd]⟩
            · exact .inl ⟨head, rest, d, hhead, hpath, hrest, hget, by simpa [hcut, hget, hrest] using hlookup⟩
  · rintro (⟨head, rest, d, hhead, hpath, hrest, hget, hwalk⟩ | ⟨head, hhead, hpath, hget⟩)
    · have hcut := Text.cutAt?_point_eq_some.mpr ⟨hhead, hpath⟩
      simpa [hcut, hget, hrest] using hwalk
    · have hcut : Text.cutAt? "." (bare path) = some (head, "") :=
        Text.cutAt?_point_eq_some.mpr ⟨hhead, by simpa using hpath⟩
      simp [hcut, hget]

/-- Nothing is found under a name whose first part is no variable, unless the whole name is one. -/
theorem has_eq_false_of_first {env : Environment} {path head rest : String} (hhead : '.' ∉ head.toList)
    (hname : bare path = head ++ "." ++ rest) (hfirst : env.get? head = none) (hfree : env.get? (bare path) = none) :
    env.has path = false := by
  have hcut : Text.cutAt? "." (bare path) = some (head, rest) := Text.cutAt?_point_eq_some.mpr ⟨hhead, hname⟩
  have hnonempty : (bare path).isEmpty = false := by
    rw [Bool.eq_false_iff, ne_eq, String.isEmpty_iff, hname]
    intro hempty
    have hlength := congrArg String.length hempty
    simp [String.length_append] at hlength
  simp [has, lookup?, hnonempty, hfree, hcut, hfirst]

theorem lookup?_of_resolve_map {env : Environment} {path : String} {entries : List (Datum × Datum)}
    (h : env.resolve path = .map entries) : env.lookup? path = some (.map entries) ∧ bare path ≠ "" := by
  unfold resolve at h
  cases hlookup : env.lookup? path with
  | none => simp [hlookup] at h
  | some d =>
      refine ⟨by simpa [hlookup] using h, fun hbare => ?_⟩
      simp [lookup?, hbare] at hlookup

theorem has_and_resolve_iff {env : Environment} {path : String} {v : Datum} :
    env.has path = true ∧ env.resolve path = v ↔ env.lookup? path = some v := by
  unfold has resolve
  cases env.lookup? path <;> simp

/-- **Which values of a map are found under its name and their key.**  Where a path stands for a map and no variable has
the longer name, a value in it is found exactly where the points of the longer name lead to it.  They do where the path
is not a variable's own name and has more behind its first point, and where it has no points and the key is not empty.
In a map that is a variable with points in its name, nothing is found but what they lead to as well. -/
theorem resolve_key {env : Environment} {path key : String} {entries : List (Datum × Datum)} {v : Datum}
    (hmap : env.resolve path = .map entries) (hv : Datum.lookup? (.text key) entries = some v)
    (hkey : '.' ∉ key.toList) (hfree : env.get? (bare (path ++ "." ++ key)) = none) :
    (env.has (path ++ "." ++ key) = true ∧ env.resolve (path ++ "." ++ key) = v ↔
        env.LeadsTo (bare (path ++ "." ++ key)) v) ∧
      (env.get? (bare path) = none → (∀ head : String, '.' ∉ head.toList → bare path ≠ head ++ ".") →
        env.LeadsTo (bare (path ++ "." ++ key)) v) ∧
      ('.' ∉ (bare path).toList → key ≠ "" → env.LeadsTo (bare (path ++ "." ++ key)) v) := by
  obtain ⟨hlookup, hbare⟩ := lookup?_of_resolve_map hmap
  have hlonger : bare (path ++ "." ++ key) = bare path ++ "." ++ key := by
    rw [String.append_assoc, bare_append hbare, ← String.append_assoc]
  have hnonempty : bare (path ++ "." ++ key) ≠ "" := by
    intro hempty
    have hlength := congrArg String.length (hlonger.symm.trans hempty)
    simp [String.length_append] at hlength
  have halone : '.' ∉ (bare path).toList → env.get? (bare path) = some (.map entries) := by
    intro hpoint
    cases hget : env.get? (bare path) with
    | some d => rw [← hlookup, lookup?_of_get? hbare hget]
    | none =>
        rcases (lookup?_eq_some_iff hbare hget).mp hlookup with ⟨head, rest, -, -, hname, -⟩ | ⟨head, -, hname, -⟩ <;>
          simp [hname] at hpoint
  refine ⟨?_, fun hget hend => ?_, fun hpoint hsome => ?_⟩
  · rw [has_and_resolve_iff, lookup?_eq_some_iff hnonempty hfree, or_iff_left]
    rintro ⟨head, hhead, hname, hget⟩
    -- the key is empty and the path is the variable, which is not among its own values
    have hpath : bare path = head := Text.eq_of_append_point hkey (hlonger.symm.trans hname)
    have hvariable := halone (hpath ▸ hhead)
    rw [hpath, hget] at hvariable
    exact Datum.ne_map_of_lookup? hv (Option.some.inj hvariable)
  · rw [hlonger]
    rcases (lookup?_eq_some_iff hbare hget).mp hlookup with hleads | ⟨head, hhead, hname, -⟩
    · exact hleads.key hv hkey
    · exact absurd hname (hend head hhead)
  · refine ⟨bare path, key, .map entries, hpoint, hlonger, hsome, halone hpoint, ?_⟩
    have hsplit : Text.split "." key = [key] := by
      simp [Text.split, Text.splitOn_of_not_mem hkey]
    simpa [hsplit, walk, Datum.get?] using hv

/-- The name of a series lies in the query of a search. -/
theorem resolve_key_series :
    let env := forSearch 2024 "bunny" [] [] [(.text "Series", .object [("Name", .text "Bunny")])]
    env.resolve ".Query.Series" = .object [("Name", .text "Bunny")] ∧
      env.get? (bare (".Query.Series" ++ "." ++ "Name")) = none ∧
      env.has (".Query.Series" ++ "." ++ "Name") = true ∧
      env.resolve (".Query.Series" ++ "." ++ "Name") = .text "Bunny" := by
  intro env
  have hmap : env.resolve ".Query.Series" = .map [(.text "Name", .text "Bunny")] := by rfl
  have hfree : env.get? (bare (".Query.Series" ++ "." ++ "Name")) = none := by rfl
  obtain ⟨hfound, hleads, -⟩ := resolve_key hmap (v := .text "Bunny") rfl (by decide) hfree
  refine ⟨hmap, hfree, hfound.mpr (hleads rfl ?_)⟩
  intro head hhead hname
  have hcut : Text.cutAt? "." (bare ".Query.Series") = some (head, "") :=
    Text.cutAt?_point_eq_some.mpr ⟨hhead, by simpa using hname⟩
  have hseries : Text.cutAt? "." (bare ".Query.Series") = some ("Query", "Series") := by decide +kernel
  rw [hseries] at hcut
  simp at hcut

/-- A field of the row that holds a map is found, and the values in the map are not. -/
theorem published_map_closed :
    let env := ({} : Environment).setResult "info" (.object [("name", .text "x")])
    env.resolve "Result.info" = .map [(.text "name", .text "x")] ∧
      Datum.lookup? (.text "name") [(.text "name", .text "x")] = some (.text "x") ∧
      env.get? (bare ("Result.info" ++ "." ++ "name")) = none ∧
      ¬ (env.has ("Result.info" ++ "." ++ "name") = true ∧
        env.resolve ("Result.info" ++ "." ++ "name") = .text "x") := by
  intro env
  refine ⟨rfl, rfl, rfl, ?_⟩
  have hname : bare ("Result.info" ++ "." ++ "name") = "Result" ++ "." ++ "info.name" := by rfl
  have hnot : env.has ("Result.info" ++ "." ++ "name") = false :=
    has_eq_false_of_first (by decide) hname (by rfl) (by rfl)
  rintro ⟨hfound, -⟩
  rw [hnot] at hfound
  cases hfound

end Environment

end MetaSearch
