import MetaSearch.Proofs.Release.WellFormed
import MetaSearch.Proofs.Sequence.Distinct
import MetaSearch.Site.Query

/-!
# Forwarded categories

A site is asked for its own categories, which are looked up from the codes that are wanted; what it finds is filed by the
same mappings the other way round, and kept where the code is a wanted one.  The two ways fit together: a category whose
releases would be kept is among those that the site is asked for.

* `Definition.siteCategories_eq_ok` says what a site is asked for: the identifiers of the wanted mappings, each once.
* `Category.codeOfSite_of_mapped` files the category of a mapping under the target of the first mapping with its
  identifier, so that this mapping is asked for where the code is wanted.
* `Definition.siteCategories_forward` puts the two together, down to the releases that are kept.
-/

namespace MetaSearch

/-- A selection in which no choice fails is one by a truth value. -/
theorem filterM_eq_ok {α ε : Type} {select : α → Except ε Bool} {p : α → Bool} {xs : List α}
    (h : ∀ x ∈ xs, select x = .ok (p x)) : xs.filterM select = .ok (xs.filter p) := by
  have hfrom : ∀ kept, List.filterAuxM select xs kept = .ok ((xs.filter p).reverse ++ kept) := by
    induction xs with
    | nil => exact fun kept => rfl
    | cons x xs ih =>
        intro kept
        have hrest := ih fun y hy => h y (List.mem_cons_of_mem x hy)
        rw [List.filterAuxM, h x List.mem_cons_self]
        cases hx : p x with
        | false =>
            rw [List.filter_cons_of_neg (by simp [hx])]
            exact hrest kept
        | true =>
            rw [List.filter_cons_of_pos hx, List.reverse_cons, List.append_assoc]
            exact hrest (x :: kept)
  rw [List.filterM, hfrom, List.append_nil]
  change Except.ok (xs.filter p).reverse.reverse = _
  rw [List.reverse_reverse]

/-! ## From codes to the categories of a site -/

/-- A mapping leads to one of some codes, or to a member of a family among them. -/
def CategoryMapping.IsWanted (codes : List Int) (m : CategoryMapping) : Prop :=
  ∃ code, Category.codeOfTarget m.target = .ok code ∧
    ((code : Int) ∈ codes ∨ ∃ c family, Category.ofCode? code = some c ∧ c.parent = some family ∧ (family : Int) ∈ codes)

namespace Definition

/-- A mapping with a code is asked for exactly when it is wanted. -/
theorem isAskedFor_eq_ok (codes : List Int) {m : CategoryMapping} {code : Nat}
    (h : Category.codeOfTarget m.target = .ok code) :
    ∃ asked, isAskedFor codes m = .ok asked ∧ (asked = true ↔ m.IsWanted codes) := by
  have hasked : isAskedFor codes m = .ok (codes.contains (code : Int) ||
      ((Category.ofCode? code).bind (·.parent)).any fun p : Nat => codes.contains (p : Int)) := by
    rw [isAskedFor, h]
    change Except.ok _ = Except.ok _
    cases (Category.ofCode? code).bind (·.parent) <;> rfl
  refine ⟨_, hasked, ?_⟩
  rw [Bool.or_eq_true, List.contains_iff_mem, Option.any_eq_true]
  constructor
  · rintro (hcode | ⟨family, hfamily, hmem⟩)
    · exact ⟨code, h, .inl hcode⟩
    · obtain ⟨c, hc, hparent⟩ := Option.bind_eq_some_iff.mp hfamily
      exact ⟨code, h, .inr ⟨c, family, hc, hparent, List.contains_iff_mem.mp hmem⟩⟩
  · rintro ⟨code', hcode', hwanted⟩
    obtain rfl : code = code' := by simpa [h] using hcode'
    rcases hwanted with hcode | ⟨c, family, hc, hparent, hmem⟩
    · exact .inl hcode
    · exact .inr ⟨family, Option.bind_eq_some_iff.mpr ⟨c, hc, hparent⟩, List.contains_iff_mem.mpr hmem⟩

/-- **What a site is asked for**: the identifiers of the wanted mappings, each once and in the order of the mappings. -/
theorem siteCategories_eq_ok {d : Definition} {codes : List Int} (hcodes : codes ≠ [])
    (htargets : ∀ m ∈ d.mappings, ∃ code, Category.codeOfTarget m.target = .ok code) :
    ∃ ids, d.siteCategories codes = .ok ids ∧ ids.Nodup ∧ ids.Sublist (d.mappings.map (·.id)) ∧
      ∀ id, id ∈ ids ↔ ∃ m ∈ d.mappings, m.id = id ∧ m.IsWanted codes := by
  classical
  have hselect : ∀ m ∈ d.mappings, isAskedFor codes m = .ok (decide (m.IsWanted codes)) := by
    intro m hm
    obtain ⟨code, hcode⟩ := htargets m hm
    obtain ⟨asked, hasked, hiff⟩ := isAskedFor_eq_ok codes hcode
    rw [hasked, ← Bool.decide_coe asked, decide_eq_decide.mpr hiff]
  have hne : codes.isEmpty = false := by simpa using hcodes
  refine ⟨((d.mappings.filter fun m => decide (m.IsWanted codes)).map (·.id)).eraseDups, ?_, nodup_eraseDups _, ?_, ?_⟩
  · rw [siteCategories, hne, filterM_eq_ok hselect]
    rfl
  · exact (eraseDups_sublist _).trans (List.filter_sublist.map _)
  · intro id
    rw [List.mem_eraseDups, List.mem_map]
    simp only [List.mem_filter, decide_eq_true_eq]
    constructor
    · rintro ⟨m, ⟨hm, hwanted⟩, rfl⟩
      exact ⟨m, hm, rfl, hwanted⟩
    · rintro ⟨m, hm, rfl, hwanted⟩
      exact ⟨m, ⟨hm, hwanted⟩, rfl⟩

end Definition

/-! ## From a category of a site to its code -/

/-- **The category of a mapping** is filed under the target of the first mapping with its identifier. -/
theorem Category.codeOfSite_of_mapped {raw : Datum} {mappings : List CategoryMapping}
    (hraw : Text.strip raw.asText ≠ "") (hmapped : ∃ m ∈ mappings, Text.strip m.id = Text.strip raw.asText) :
    ∃ m ∈ mappings, Text.strip m.id = Text.strip raw.asText ∧ codeOfSite raw mappings = codeOfTarget m.target := by
  cases hfound : mappings.find? fun m => Text.strip m.id == Text.strip raw.asText with
  | none =>
      obtain ⟨m, hm, hid⟩ := hmapped
      have hother := List.find?_eq_none.mp hfound m hm
      exact absurd (beq_iff_eq.mpr hid) hother
  | some m =>
      have hid : Text.strip m.id = Text.strip raw.asText := by simpa using List.find?_some hfound
      have hne : (Text.strip raw.asText).isEmpty = false := by simpa using hraw
      refine ⟨m, List.mem_of_find?_eq_some hfound, hid, ?_⟩
      simp only [codeOfSite, hne, hfound]
      rfl

/-- A release is filed under the code of its row's category. -/
theorem Row.categories_of_release? {row : Row} {profile : SiteProfile} {now : Moment} {r : Release}
    (h : row.release? profile now = .ok (some r)) :
    ∃ code : Nat, Category.codeOfSite (.text (row.text "category")) profile.mappings = .ok code ∧
      r.categories = [(code : Int)] := by
  simp only [release?] at h
  split at h
  · cases h
  · split at h
    · cases h
    · obtain ⟨size, -, h⟩ := exists_of_bind_eq_ok h
      obtain ⟨seeders, -, h⟩ := exists_of_bind_eq_ok h
      obtain ⟨leechers, -, h⟩ := exists_of_bind_eq_ok h
      obtain ⟨published, -, h⟩ := exists_of_bind_eq_ok h
      obtain ⟨sizeText, -, h⟩ := exists_of_bind_eq_ok h
      obtain ⟨timestamp, -, h⟩ := exists_of_bind_eq_ok h
      obtain ⟨grabs, -, h⟩ := exists_of_bind_eq_ok h
      obtain ⟨code, hcode, h⟩ := exists_of_bind_eq_ok h
      obtain rfl := Option.some.inj (Except.ok.inj h)
      exact ⟨code, hcode, rfl⟩

/-! ## Both ways -/

/-- **No category whose releases would be kept goes unasked.**  Where all mappings have targets that can be looked up, a
site is asked for the identifiers of the wanted mappings, each once and in their order.  A category that is the identifier
of a mapping, but for blanks, is filed under a code; if that is a wanted one, or a release of such a row is kept, then the
site is asked for that category. -/
theorem Definition.siteCategories_forward (d : Definition) (codes : List Int) (hcodes : codes ≠ [])
    (htargets : ∀ m ∈ d.mappings, ∃ code, Category.codeOfTarget m.target = .ok code) :
    ∃ ids, d.siteCategories codes = .ok ids ∧ ids.Nodup ∧ ids.Sublist (d.mappings.map (·.id)) ∧
      (∀ id, id ∈ ids ↔ ∃ m ∈ d.mappings, m.id = id ∧ m.IsWanted codes) ∧
      (∀ raw : Datum, Text.strip raw.asText ≠ "" → (∃ m ∈ d.mappings, Text.strip m.id = Text.strip raw.asText) →
        ∃ code : Nat, Category.codeOfSite raw d.mappings = .ok code ∧
          ((code : Int) ∈ codes → ∃ id ∈ ids, Text.strip id = Text.strip raw.asText)) ∧
      ∀ (row : Row) (profile : SiteProfile) (now : Moment) (r : Release), profile.mappings = d.mappings →
        row.release? profile now = .ok (some r) → row.text "category" ≠ "" →
        (∃ m ∈ d.mappings, Text.strip m.id = row.text "category") → r.isFiledUnder codes = true →
        ∃ id ∈ ids, Text.strip id = row.text "category" := by
  obtain ⟨ids, hids, hnodup, hsublist, hmem⟩ := siteCategories_eq_ok hcodes htargets
  have hfiled : ∀ raw : Datum, Text.strip raw.asText ≠ "" →
      (∃ m ∈ d.mappings, Text.strip m.id = Text.strip raw.asText) →
      ∃ code : Nat, Category.codeOfSite raw d.mappings = .ok code ∧
        ((code : Int) ∈ codes → ∃ id ∈ ids, Text.strip id = Text.strip raw.asText) := by
    intro raw hraw hmapped
    obtain ⟨m, hm, hid, hcode⟩ := Category.codeOfSite_of_mapped hraw hmapped
    obtain ⟨code, htarget⟩ := htargets m hm
    refine ⟨code, hcode.trans htarget, fun hwanted => ?_⟩
    exact ⟨m.id, (hmem m.id).mpr ⟨m, hm, rfl, code, htarget, .inl hwanted⟩, hid⟩
  refine ⟨ids, hids, hnodup, hsublist, hmem, hfiled, ?_⟩
  intro row profile now r hprofile hrelease hne hmapped hkept
  have hasText : (Datum.text (row.text "category")).asText = row.text "category" := rfl
  have htext : Text.strip (Datum.text (row.text "category")).asText = row.text "category" := by
    rw [hasText, row.strip_text]
  have hraw := hfiled (.text (row.text "category"))
  rw [htext] at hraw
  obtain ⟨code, hcode, hasked⟩ := hraw hne hmapped
  obtain ⟨code', hcode', hcategories⟩ := Row.categories_of_release? hrelease
  rw [hprofile, hcode] at hcode'
  obtain rfl := Except.ok.inj hcode'
  have hwanted : (code : Int) ∈ codes := by
    have hsome : codes.isEmpty = false := by simpa using hcodes
    simpa [Release.isFiledUnder, hsome, hcategories] using hkept
  exact hasked hwanted

/-- A site on which two mappings have one identifier but for a blank, and only the first one counts. -/
def Definition.blanked : Definition where
  id := "tracker"
  name := "Tracker"
  links := ["https://tracker.example/"]
  search := { paths := [], rows := { selector := "tr" }, fields := [] }
  mappings := [⟨"207 ", "Movies/HD", ""⟩, ⟨"207", "TV", ""⟩, ⟨"208", "5040", "HD shows"⟩]

/-- A row of that site, filed under the identifier with another blank. -/
def Row.blanked : Row := [("title", .text "Dune"), ("download", .text "/d/8"), ("category", .text " 207")]

/-- The row of the site with blanks is kept for the code of the first mapping, and its category is asked for. -/
theorem Definition.siteCategories_forward_blanked :
    (∀ m ∈ blanked.mappings, ∃ code, Category.codeOfTarget m.target = .ok code) ∧
      ∃ ids r, blanked.siteCategories [2040] = .ok ids ∧
        Row.blanked.release? (blanked.profile none) ⟨0, 0, by decide⟩ = .ok (some r) ∧
        r.isFiledUnder [2040] = true ∧ ∃ id ∈ ids, Text.strip id = Row.blanked.text "category" := by
  have htargets : ∀ m ∈ blanked.mappings, ∃ code, Category.codeOfTarget m.target = .ok code := by
    have hall : ∀ m ∈ blanked.mappings, (Category.codeOfTarget m.target).isOk = true := by decide +kernel
    exact fun m hm => exists_of_isOk (hall m hm)
  have hread : (Row.blanked.release? (blanked.profile none) ⟨0, 0, by decide⟩).toOption.map
      (·.any (Release.isFiledUnder [2040])) = some true := by decide +kernel
  obtain ⟨ids, hids, -, -, -, -, hkept⟩ := siteCategories_forward blanked [2040] (by decide) htargets
  obtain ⟨result, hrelease, hsome⟩ := exists_of_map_toOption hread
  obtain ⟨r, rfl, hfiled⟩ := (Option.any_eq_true _ _).mp hsome
  refine ⟨htargets, ids, r, hids, hrelease, hfiled, ?_⟩
  have hne : Row.blanked.text "category" ≠ "" := by decide +kernel
  have hmapped : ∃ m ∈ blanked.mappings, Text.strip m.id = Row.blanked.text "category" := by decide +kernel
  exact hkept Row.blanked (blanked.profile none) ⟨0, 0, by decide⟩ r rfl hrelease hne hmapped hfiled

end MetaSearch
