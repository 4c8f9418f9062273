import MetaSearch.Proofs.Release.Legible
import MetaSearch.Proofs.Text.Trimmed

/-!
# Well-formed releases

A row is left out for its blank title or for want of a link, and for nothing else.  Whatever else a row holds, the
release that is made of it is well formed.

* `Category.isKnown_codeOfSite` goes through the three ways in which a site's category is filed: each ends in the table.
* `Row.link?_eq_none_iff` says when there is no link, and `Row.link?_eq_some` that a link is not blank.
* `release?_wellFormed` puts them together.
-/

namespace MetaSearch

/-! ## Categories of the table -/

namespace Category

/-- The categories of the table are known. -/
theorem isKnown_of_mem {c : Category} (h : c ∈ all) : isKnown c.id = true :=
  List.find?_isSome.mpr ⟨c, h, by simp⟩

/-- A code that is known is the code of a category of the table. -/
theorem exists_of_isKnown {code : Int} (h : isKnown code = true) : ∃ c ∈ all, (c.id : Int) = code := by
  obtain ⟨c, hc, heq⟩ := List.find?_isSome.mp h
  exact ⟨c, hc, by simpa using heq⟩

/-- A family that is found has a known code. -/
theorem isKnown_of_codeOfFamily? {name : String} {code : Nat} (h : codeOfFamily? name = some code) :
    isKnown code = true := by
  obtain ⟨c, hc, rfl⟩ := Option.map_eq_some_iff.mp h
  exact isKnown_of_mem (List.mem_of_find?_eq_some hc)

/-- A name is filed under a known code. -/
theorem isKnown_codeOfName (name : String) : isKnown (codeOfName name) = true := by
  unfold codeOfName
  dsimp only
  split
  · rename_i c hc
    exact isKnown_of_mem (List.mem_of_find?_eq_some hc)
  · generalize hfamily : codeOfFamily? _ = family
    cases family with
    | none =>
        rw [Option.getD_none]
        exact isKnown_other
    | some code =>
        rw [Option.getD_some]
        exact isKnown_of_codeOfFamily? hfamily

/-- A code that a text spells is filed under only where it is known. -/
theorem isKnown_of_spelledCode? {text : String} {code : Nat} (h : spelledCode? text = .ok (some code)) :
    isKnown code = true := by
  rw [spelledCode?] at h
  split at h
  · split at h
    · cases h
    · rename_i number hnumber
      split at h
      · rename_i hknown
        obtain ⟨c, hc, rfl⟩ := exists_of_isKnown hknown
        obtain rfl : c.id = code := by simpa using h
        exact isKnown_of_mem hc
      · cases h
  · cases h

/-- What a text spells or names is known. -/
theorem isKnown_of_spelled {text : String} {code : Nat}
    (h : (do return (← spelledCode? text).getD (codeOfName text) : Except Fault Nat) = .ok code) :
    isKnown code = true := by
  cases hspelled : spelledCode? text with
  | error f => rw [hspelled] at h; cases h
  | ok found =>
      have hcode : found.getD (codeOfName text) = code := by
        rw [hspelled] at h
        simpa [bind, Except.bind, pure, Except.pure] using h
      rw [← hcode]
      cases found with
      | none =>
          rw [Option.getD_none]
          exact isKnown_codeOfName text
      | some found =>
          rw [Option.getD_some]
          exact isKnown_of_spelledCode? hspelled

/-- **A site's category is filed under a known code**, whatever it says and whatever the mappings are. -/
theorem isKnown_codeOfSite {category : Datum} {mappings : List CategoryMapping} {code : Nat}
    (h : codeOfSite category mappings = .ok code) : isKnown code = true := by
  simp only [codeOfSite] at h
  split at h
  · obtain rfl := Except.ok.inj h
    exact isKnown_other
  · split at h
    · exact isKnown_of_spelled h
    · split at h
      · exact isKnown_of_spelled h
      · exact isKnown_of_spelled h

end Category

/-! ## Links -/

theorem Magnet.build_ne_empty (infoHash title : String) (trackers : List String) :
    build infoHash title trackers ≠ "" := by
  unfold build
  rw [ne_eq, String.append_eq_empty_iff, String.append_eq_empty_iff, String.append_eq_empty_iff,
    String.append_eq_empty_iff]
  rintro ⟨⟨⟨⟨hmark, -⟩, -⟩, -⟩, -⟩
  exact absurd hmark (by decide)

namespace Row

variable {row : Row} {profile : SiteProfile} {title name t : String}

/-- A field without text is blank. -/
theorem text?_eq_none_iff : row.text? name = none ↔ row.text name = "" := by
  simp [text?]

/-- A text of a field is the field's, and not blank. -/
theorem text_of_text? (h : row.text? name = some t) : row.text name = t ∧ t ≠ "" := by
  simp only [text?] at h
  split at h
  · cases h
  · rename_i hne
    obtain rfl := Option.some.inj h
    exact ⟨rfl, by simpa using hne⟩

/-- The direct link of a row is its own. -/
theorem source_download (row : Row) (profile : SiteProfile) (title : String) :
    (row.source profile title).download = row.text? "download" := by
  simp only [source]

/-- The magnet link of a row is its own, or it is made up from the info-hash of a row of a site that is not private and
that has no link at all. -/
theorem source_magnet (row : Row) (profile : SiteProfile) (title : String) :
    (row.source profile title).magnet = row.text? "magnet" ∨
      profile.privacy ≠ .members ∧ row.text? "download" = none ∧ row.text? "magnet" = none ∧
        ∃ hash, row.text? "infohash" = some hash ∧
          (row.source profile title).magnet = some (Magnet.build hash title Magnet.publicTrackers) := by
  simp only [source]
  cases hdownload : row.text? "download" with
  | some download => exact .inl rfl
  | none =>
      cases hmagnet : row.text? "magnet" with
      | some magnet => exact .inl rfl
      | none =>
          cases hhash : row.text? "infohash" with
          | none => exact .inl rfl
          | some hash =>
              by_cases hprivate : profile.privacy = .members
              · simp [hprivate]
              · simp [hprivate]

/-- The link of a row: its magnet link, or the direct one. -/
def link? (row : Row) (profile : SiteProfile) (title : String) : Option String :=
  (row.source profile title).magnet.orElse fun _ => (row.source profile title).download

/-- **When a row has no link**: it gives none, and none is made up, because the site is private or there is nothing to
make one from. -/
theorem link?_eq_none_iff : row.link? profile title = none ↔
    row.text "download" = "" ∧ row.text "magnet" = "" ∧ (profile.privacy = .members ∨ row.text "infohash" = "") := by
  simp only [← text?_eq_none_iff, link?, source]
  cases row.text? "download" with
  | some download => cases row.text? "magnet" <;> simp
  | none =>
      cases row.text? "magnet" with
      | some magnet => simp
      | none => cases row.text? "infohash" <;> simp

/-- A magnet link is not blank, be it the row's own or made up. -/
theorem magnet_ne_empty {magnet : String} (h : (row.source profile title).magnet = some magnet) : magnet ≠ "" := by
  rcases row.source_magnet profile title with hown | ⟨-, -, -, hash, -, hmade⟩
  · rw [hown] at h
    exact (text_of_text? h).2
  · rw [hmade] at h
    rw [← Option.some.inj h]
    exact Magnet.build_ne_empty hash title Magnet.publicTrackers

/-- The link of a row is not blank, and it is the magnet link where there is one. -/
theorem link?_eq_some {link : String} (h : row.link? profile title = some link) :
    link ≠ "" ∧ link = (row.source profile title).magnet.getD (row.text "download") := by
  rw [link?] at h
  cases hmagnet : (row.source profile title).magnet with
  | some magnet =>
      rw [hmagnet] at h
      obtain rfl : magnet = link := Option.some.inj h
      rw [Option.getD_some]
      exact ⟨magnet_ne_empty hmagnet, rfl⟩
  | none =>
      rw [hmagnet, source_download, Option.orElse_none] at h
      obtain ⟨hdownload, hne⟩ := text_of_text? h
      rw [Option.getD_none]
      exact ⟨hne, hdownload.symm⟩

end Row

/-! ## Releases -/

/-- A number of peers is between none and five millions. -/
def Count.Believable (count : Int) : Prop :=
  0 ≤ count ∧ count ≤ 5000000

/-- Numbers of peers are believable when they are read. -/
theorem Count.believable_believable (count : Int) : Believable (believable count) := by
  have hceiling : (peerCeiling : Int) = 5000000 := rfl
  exact ⟨believable_nonneg count, hceiling ▸ believable_le count⟩

theorem wholeDays_nonneg (published now : Moment) : 0 ≤ wholeDays published now :=
  Int.le_max_right _ _

/-- What every release that is made of a row comes with. -/
structure Release.WellFormed (row : Row) (profile : SiteProfile) (r : Release) : Prop where
  title : r.title = row.text "title" ∧ Text.strip r.title = r.title ∧ r.title ≠ ""
  link : r.downloadUrl ≠ "" ∧ r.downloadUrl = r.magnetUrl.getD (row.text "download")
  guid : r.guid ≠ ""
  size : 0 ≤ r.size
  seeders : Count.Believable r.seeders
  leechers : Count.Believable r.leechers
  grabs : 0 ≤ r.grabs
  age : 0 ≤ r.age
  categories : r.categories ≠ [] ∧ ∀ code ∈ r.categories, Category.isKnown code = true
  /-- No magnet link is made up for a private site. -/
  own : profile.privacy = .members → r.magnetUrl = row.text? "magnet"

namespace Row

variable {row : Row} {profile : SiteProfile} {now : Moment}

/-- The number of leechers is believable. -/
theorem believable_leechers {seeders leechers : Int} (h : row.leechers seeders = .ok leechers) :
    Count.Believable leechers := by
  have hbelievable : ∃ count, leechers = Count.believable count := by
    rw [Row.leechers] at h
    split at h
    · cases hread : Count.read (row.value "peers") with
      | error f => rw [hread] at h; cases h
      | ok peers =>
          rw [hread] at h
          exact ⟨_, (Except.ok.inj h).symm⟩
    · cases hread : Count.read (row.value "leechers") with
      | error f => rw [hread] at h; cases h
      | ok count =>
          rw [hread] at h
          exact ⟨_, (Except.ok.inj h).symm⟩
  obtain ⟨count, rfl⟩ := hbelievable
  exact Count.believable_believable count

/-- The text of a field has no blanks around it. -/
theorem strip_text (row : Row) (name : String) : Text.strip (row.text name) = row.text name :=
  Text.strip_strip (row.value name).asText

/-- A guid is the address of the details where there is one, and else the link; neither is blank. -/
theorem guid_ne_empty {link : String} (h : link ≠ "") : (row.text? "details").getD link ≠ "" := by
  cases hdetails : row.text? "details" with
  | none => rwa [Option.getD_none]
  | some details =>
      rw [Option.getD_some]
      exact (text_of_text? hdetails).2

/-- The magnet link of a row of a private site is its own. -/
theorem source_magnet_of_private (h : profile.privacy = .members) (title : String) :
    (row.source profile title).magnet = row.text? "magnet" := by
  rcases row.source_magnet profile title with hown | ⟨hpublic, -⟩
  · exact hown
  · exact absurd h hpublic

/-- A release is made of a row with a title and a link, and it is well formed. -/
theorem release?_of_link {result : Option Release} (h : row.release? profile now = .ok result)
    (htitle : row.text "title" ≠ "") {link : String} (hlink : row.link? profile (row.text "title") = some link) :
    ∃ r, result = some r ∧ r.WellFormed row profile := by
  have hne : (row.text "title").isEmpty = false := by simpa using htitle
  obtain ⟨hblank, hmagnet⟩ := link?_eq_some hlink
  have hown : profile.privacy = .members → (row.source profile (row.text "title")).magnet = row.text? "magnet" :=
    fun hprivate => source_magnet_of_private hprivate (row.text "title")
  rw [link?] at hlink
  simp only [release?, hne, Bool.false_eq_true, if_false] at h
  generalize row.source profile (row.text "title") = source at hlink hmagnet hown h
  simp only [hlink] at h
  obtain ⟨size, -, h⟩ := exists_of_bind_eq_ok h
  obtain ⟨seeders, -, h⟩ := exists_of_bind_eq_ok h
  obtain ⟨leechers, hleechers, h⟩ := exists_of_bind_eq_ok h
  obtain ⟨published, -, h⟩ := exists_of_bind_eq_ok h
  obtain ⟨sizeText, -, h⟩ := exists_of_bind_eq_ok h
  obtain ⟨timestamp, -, h⟩ := exists_of_bind_eq_ok h
  obtain ⟨grabs, -, h⟩ := exists_of_bind_eq_ok h
  obtain ⟨code, hcode, h⟩ := exists_of_bind_eq_ok h
  refine ⟨_, (Except.ok.inj h).symm, ?_⟩
  have hstripped : Text.strip (row.text "title") = row.text "title" := row.strip_text "title"
  have hcodes : ∀ c ∈ [(code : Int)], Category.isKnown c = true := by
    intro c hc
    rw [List.mem_singleton.mp hc]
    exact Category.isKnown_codeOfSite hcode
  constructor <;> dsimp only
  case title => exact ⟨rfl, hstripped, htitle⟩
  case link => exact ⟨hblank, hmagnet⟩
  case guid => exact guid_ne_empty hblank
  case size => exact Int.natCast_nonneg size
  case seeders => exact Count.believable_believable seeders
  case leechers => exact believable_leechers hleechers
  case grabs => exact Int.natCast_nonneg grabs
  case age => exact wholeDays_nonneg published now
  case categories => exact ⟨List.cons_ne_nil _ _, hcodes⟩
  case own => exact hown

/-- **Every release is well formed, and rows are left out for the two reasons only.** -/
theorem release?_wellFormed {result : Option Release} (h : row.release? profile now = .ok result) :
    (result = none ↔ row.text "title" = "" ∨ row.text "download" = "" ∧ row.text "magnet" = "" ∧
      (profile.privacy = .members ∨ row.text "infohash" = "")) ∧
    ∀ r, result = some r → r.WellFormed row profile := by
  by_cases htitle : row.text "title" = ""
  · have hnone : result = none := by
      simp only [release?, htitle] at h
      exact (Except.ok.inj h).symm
    subst hnone
    exact ⟨iff_of_true rfl (.inl htitle), by simp⟩
  · rw [or_iff_right htitle, ← @link?_eq_none_iff row profile (row.text "title")]
    cases hlink : row.link? profile (row.text "title") with
    | none =>
        have hne : (row.text "title").isEmpty = false := by simpa using htitle
        have hnone : result = none := by
          rw [link?] at hlink
          simp only [release?, hne, hlink] at h
          exact (Except.ok.inj h).symm
        subst hnone
        exact ⟨iff_of_true rfl rfl, by simp⟩
    | some link =>
        obtain ⟨made, rfl, hmade⟩ := release?_of_link h htitle hlink
        refine ⟨iff_of_false (by simp) (by simp), fun r hr => ?_⟩
        obtain rfl := Option.some.inj hr
        exact hmade

/-- A row that gives a title and an info-hash and nothing else. -/
def bare : Row := [("title", .text " Dune "), ("infohash", .text "8")]

/-- A site that everyone may use. -/
def openSite : SiteProfile where
  indexerId := "list"
  indexerName := "List"

/-- The bare row of an open site comes to a release. -/
theorem release?_wellFormed_bare : ∃ r, bare.release? openSite ⟨0, 0, by decide⟩ = .ok (some r) ∧
    r.WellFormed bare openSite := by
  have hread : (bare.release? openSite ⟨0, 0, by decide⟩).isOk = true := by decide +kernel
  obtain ⟨result, hresult⟩ := exists_of_isOk hread
  obtain ⟨hnone, hsome⟩ := release?_wellFormed hresult
  cases result with
  | none => exact absurd (hnone.mp rfl) (by decide +kernel)
  | some r => exact ⟨r, hresult, hsome r rfl⟩

end Row

end MetaSearch
