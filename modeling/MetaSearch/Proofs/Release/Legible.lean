import MetaSearch.Proofs.Calendar.Legible
import MetaSearch.Proofs.Number.Greatest
import MetaSearch.Proofs.Number.Spelled
import MetaSearch.Release.Row

/-!
# Legible rows

Whatever a site writes, most of it is read as something, and be it as zero, as the present or as the category of all
the rest.  A few values have no reading at all: infinite and undefined numbers, sizes that no floating-point number
reaches, texts of superscripts, numbers with thousands of digits, and dates outside the calendar.  `Row.Legible` says
that a row holds none of these, and `release?_isOk_iff` that exactly then something can be made of the row.
-/

namespace MetaSearch

/-- A text is no row of signs for digits, or one that spells a number. -/
def Text.Spelled (t : String) : Prop :=
  Text.isDigitText t = true → (∀ c ∈ t.toList, Text.isDecimal c = true) ∧ t.length ≤ Numeral.maxDigits

theorem isOk_elim {ε α β : Type} {x : Option α} {e : ε} {f : α → β} :
    (x.elim (Except.error e) fun a => .ok (f a)).isOk = x.isSome := by
  cases x <;> rfl

theorem isOk_of_eq {ε α : Type} {x : Except ε α} {a : α} (h : x = .ok a) : x.isOk = true :=
  h ▸ rfl

theorem exists_of_isOk_bind {ε α β : Type} {f : α → Except ε β} {x : Except ε α} (h : (x >>= f).isOk = true) :
    ∃ a, x = .ok a ∧ (f a).isOk = true := by
  cases x with
  | error e => exact absurd h Bool.false_ne_true
  | ok a => exact ⟨a, rfl, h⟩

theorem isOk_bind_pure {ε α β : Type} {f : α → β} {x : Except ε α} : (x >>= fun a => pure (f a)).isOk = x.isOk := by
  cases x <;> rfl

/-- A floating-point number has a whole part when it is finite. -/
theorem Binary64.truncate?_isSome (x : Binary64) : x.truncate?.isSome = x.isFinite := by
  cases x <;> rfl

namespace Size

/-- The words in which a size is read. -/
def words (v : Datum) : String :=
  Text.upper (Text.strip v.printed)

/-- The amounts that a text begins with are not too great for floating point. -/
def Amounts (t : String) : Prop :=
  ∀ number power x, firstAmount? t.toList = some (number, power) → value? number = some x →
    (x.mulNat (Nat.pow 1024 power)).isFinite = true

/-- A value can be read as a size. -/
def Legible : Datum → Prop
  | .null | .bool _ | .int _ => True
  | .float x => x.isFinite = true
  | v => Text.Spelled (words v) ∧ (Text.isDigitText (words v) = false → Amounts (words v))

/-- When a size can be read from a text. -/
theorem readText_isOk_iff (text : String) :
    (readText text).isOk = true ↔
      Text.Spelled (Text.upper (Text.strip text)) ∧
        (Text.isDigitText (Text.upper (Text.strip text)) = false → Amounts (Text.upper (Text.strip text))) := by
  simp only [readText]
  generalize Text.upper (Text.strip text) = t
  by_cases hempty : t.isEmpty = true
  · obtain rfl : t = "" := by simpa using hempty
    simp [Text.Spelled, Text.isDigitText, Amounts, firstAmount?, Except.toBool]
  · rw [if_neg hempty]
    by_cases hdigits : Text.isDigitText t = true
    · rw [if_pos hdigits, isOk_elim, Numeral.int?_isSome_iff hdigits]
      simp [Text.Spelled, hdigits]
    · rw [if_neg hdigits]
      have hspelled : Text.Spelled t := fun h => absurd h hdigits
      simp only [hspelled, hdigits, true_and, forall_const]
      cases hamount : firstAmount? t.toList with
      | none => simp [Amounts, hamount, Except.toBool]
      | some amount =>
          obtain ⟨number, power⟩ := amount
          have hamounts : Amounts t ↔
              ∀ x, value? number = some x → (x.mulNat (Nat.pow 1024 power)).isFinite = true := by
            constructor
            · intro h x hx
              exact h number power x hamount hx
            · intro h number' power' x hamount' hx
              obtain ⟨rfl, rfl⟩ := Prod.mk.inj (Option.some.inj (hamount.symm.trans hamount'))
              exact h x hx
          rw [hamounts]
          cases hvalue : value? number with
          | none => simp [hvalue, Except.toBool]
          | some x => simp [hvalue, isOk_elim, Binary64.truncate?_isSome]

/-- When a size can be read. -/
theorem read_isOk_iff (v : Datum) : (read v).isOk = true ↔ Legible v := by
  have htext := readText_isOk_iff v.printed
  cases v with
  | null | bool b | int i => exact iff_of_true rfl trivial
  | float x =>
      cases x with
      | nan | infinite negative => exact iff_of_false Bool.false_ne_true Bool.false_ne_true
      | finite negative m e => exact iff_of_true rfl rfl
  | text s | list xs | map entries | date d | stamp r | bytes b => exact htext

/-- A size can be written when a floating-point number is next to it. -/
theorem text_isOk_iff (n : Nat) : (text n).isOk = true ↔ n < Binary64.overflow := by
  refine Iff.trans ?_ (Binary64.ofInt?_isSome_iff n)
  rw [text]
  by_cases hzero : (n : Int) ≤ 0
  · obtain rfl : n = 0 := by omega
    exact iff_of_true rfl rfl
  · rw [if_neg hzero]
    cases Binary64.ofInt? n <;> simp [Except.toBool]

end Size

namespace Count

/-- A value can be read as a count: a number that is finite, or a text with not too many digits. -/
def Legible : Datum → Prop
  | .null | .bool _ | .int _ => True
  | .float x => x.isFinite = true
  | v =>
    emptyMarkers.contains (Text.lower (Text.strip v.printed)) = false →
      Text.startsWith (Text.strip v.printed) "-" = false →
        ((Text.strip v.printed).toList.filter Char.isDigit).length ≤ Numeral.maxDigits

/-- When a count can be read from a text. -/
theorem readText_isOk_iff (text : String) :
    (readText text).isOk = true ↔
      (emptyMarkers.contains (Text.lower (Text.strip text)) = false → Text.startsWith (Text.strip text) "-" = false →
        ((Text.strip text).toList.filter Char.isDigit).length ≤ Numeral.maxDigits) := by
  simp only [readText]
  generalize Text.strip text = t
  by_cases hnone : (emptyMarkers.contains (Text.lower t) || Text.startsWith t "-") = true
  · rw [if_pos hnone]
    refine iff_of_true rfl fun hmarker hminus => ?_
    rw [hmarker, hminus] at hnone
    simp at hnone
  · rw [if_neg hnone]
    obtain ⟨hmarker, hminus⟩ : emptyMarkers.contains (Text.lower t) = false ∧ Text.startsWith t "-" = false := by
      simpa only [Bool.not_eq_true, Bool.or_eq_false_iff] using hnone
    rw [hmarker, hminus]
    simp only [forall_const]
    generalize hdigits : t.toList.filter Char.isDigit = digits
    cases digits with
    | nil => simp [Except.toBool]
    | cons c rest =>
        have hdecimal : ∀ d ∈ c :: rest, Text.isDecimal d = true := by
          intro d hd
          rw [← hdigits] at hd
          rw [Text.isDecimal, Text.decimalValue?_of_isDigit (List.mem_filter.mp hd).2]
          rfl
        have htext : Text.isDigitText (String.ofList (c :: rest)) = true := by
          have hsigns : ∀ d ∈ c :: rest, Text.isDigitSign d = true := by
            intro d hd
            rw [Text.isDigitSign, hdecimal d hd, Bool.true_or]
          simpa [Text.isDigitText] using hsigns
        rw [if_neg (by simp), isOk_elim, Numeral.int?_isSome_iff htext, String.toList_ofList, String.length_ofList]
        exact and_iff_right hdecimal

/-- When a count can be read. -/
theorem read_isOk_iff (v : Datum) : (read v).isOk = true ↔ Legible v := by
  have htext := readText_isOk_iff v.printed
  cases v with
  | null | bool b | int i => exact iff_of_true rfl trivial
  | float x => exact Size.read_isOk_iff (.float x)
  | text s | list xs | map entries | date d | stamp r | bytes b => exact htext

end Count

namespace Category

/-- The text that decides on the category of a site's: the target of the mapping that is chosen, or the category
itself where no mapping covers it. -/
def deciding (category : String) (mappings : List CategoryMapping) : String :=
  match mappings.find? fun m => Text.strip m.id == Text.strip category with
  | some m => Text.strip m.target
  | none =>
    match mappings.find? (describes · (Text.fold (Text.strip category))) with
    | some m => Text.strip m.target
    | none => Text.strip category

theorem spelledCode?_isOk_iff (text : String) : (spelledCode? text).isOk = true ↔ Text.Spelled text := by
  rw [spelledCode?]
  by_cases hdigits : Text.isDigitText text = true
  · have hspelled : Text.Spelled text ↔ (Numeral.int? text).isSome = true := by
      rw [Numeral.int?_isSome_iff hdigits]
      simp [Text.Spelled, hdigits]
    rw [if_pos hdigits, hspelled]
    cases Numeral.int? text <;> simp [Except.toBool]
  · rw [if_neg hdigits]
    exact iff_of_true rfl fun h => absurd h hdigits

/-- When a site's category can be filed. -/
theorem codeOfSite_isOk_iff (category : String) (mappings : List CategoryMapping) :
    (codeOfSite (.text category) mappings).isOk = true ↔
      (Text.strip category ≠ "" → Text.Spelled (deciding category mappings)) := by
  have hcode : ∀ text, (do return (← spelledCode? text).getD (codeOfName text) : Except Fault Nat).isOk =
      (spelledCode? text).isOk := fun text => isOk_map
  have htarget : ∀ target, (codeOfTarget target).isOk = (spelledCode? (Text.strip target)).isOk :=
    fun target => hcode (Text.strip target)
  have htext : Datum.asText (.text category) = category := rfl
  simp only [codeOfSite, htext, deciding]
  by_cases hempty : Text.strip category = ""
  · simp only [hempty, ne_eq, not_true_eq_false, false_implies, iff_true]
    rfl
  · have hne : (Text.strip category).isEmpty = false := by simpa using hempty
    simp only [hne, Bool.false_eq_true, if_false, ne_eq, hempty, not_false_eq_true, forall_const]
    cases mappings.find? fun m => Text.strip m.id == Text.strip category with
    | some m => simp only [htarget, spelledCode?_isOk_iff]
    | none =>
        cases mappings.find? (describes · (Text.fold (Text.strip category))) with
        | some m => simp only [htarget, spelledCode?_isOk_iff]
        | none => simp only [hcode, spelledCode?_isOk_iff]

end Category

/-! ## Rows -/

/-- A value can be read as a date, and the date lies in the calendar; where there is no date, the present does. -/
def PublishDate.Legible (now : Moment) : Datum → Prop
  | .null => now.InRange
  | .stamp r => r.InRange
  | v =>
    (Text.strip (Text.strip v.asText) ≠ "" → Calendar.ofEpochText? (Text.strip (Text.strip v.asText)) = none →
      Calendar.Legible (Text.strip (Text.strip v.asText))) ∧
    (Calendar.absolute? (Text.strip v.asText) none now = .ok none → now.InRange)

/-- When a date can be read and written again. -/
theorem publishDate_isOk_iff (v : Datum) (now : Moment) :
    (publishDate v now >>= Moment.timestamp).isOk = true ↔ PublishDate.Legible now v := by
  have hnamed : ∀ text, ((do return (← Calendar.absolute? text none now).getD now : Except Fault Moment) >>=
      Moment.timestamp).isOk = true ↔
      (Text.strip text ≠ "" → Calendar.ofEpochText? (Text.strip text) = none →
        Calendar.Legible (Text.strip text)) ∧ (Calendar.absolute? text none now = .ok none → now.InRange) := by
    intro text
    rw [← Calendar.absolute?_isOk_iff text now]
    cases hread : Calendar.absolute? text none now with
    | error f => exact iff_of_false Bool.false_ne_true fun h => Bool.false_ne_true h.1
    | ok found =>
        cases found with
        | none =>
            change now.timestamp.isOk = true ↔ _
            rw [Moment.timestamp_isOk_iff]
            exact ⟨fun h => ⟨rfl, fun _ => h⟩, fun h => h.2 rfl⟩
        | some m =>
            change m.timestamp.isOk = true ↔ _
            rw [Moment.timestamp_isOk_iff]
            exact iff_of_true (Calendar.inRange_of_absolute? hread) ⟨rfl, nofun⟩
  cases v with
  | null => exact Moment.timestamp_isOk_iff
  | stamp r => exact Moment.timestamp_isOk_iff
  | bool b | int i | float x | text s | list xs | map entries | date d | bytes b =>
      exact hnamed _

namespace Row

/-- A row has a title, and there is a way to have what it describes. -/
def IsListed (row : Row) (profile : SiteProfile) : Prop :=
  row.text "title" ≠ "" ∧
    ((row.source profile (row.text "title")).magnet.orElse fun _ =>
      (row.source profile (row.text "title")).download).isSome = true

/-- All that is read of a row can be read. -/
structure Legible (row : Row) (mappings : List CategoryMapping) (now : Moment) : Prop where
  size : Size.Legible (row.value "size")
  written : ∀ n, Size.read (row.value "size") = .ok n → n < Binary64.overflow
  seeders : Count.Legible (row.value "seeders")
  leechers : Count.Legible (row.value "leechers")
  peers : (row.value "leechers").isNull = true → Count.Legible (row.value "peers")
  grabs : Count.Legible (row.value "grabs")
  date : PublishDate.Legible now (row.value "date")
  category : Text.strip (row.text "category") ≠ "" → Text.Spelled (Category.deciding (row.text "category") mappings)

/-- When the number of leechers can be read. -/
theorem leechers_isOk_iff (row : Row) (seeders : Int) :
    (row.leechers seeders).isOk = true ↔
      Count.Legible (row.value "leechers") ∧
        ((row.value "leechers").isNull = true → Count.Legible (row.value "peers")) := by
  have hnull : ∀ v : Datum, v.isNull = true → Count.Legible v := by
    rintro (_ | _) <;> simp [Datum.isNull, Count.Legible]
  rw [leechers]
  by_cases hpeers : ((row.value "leechers").isNull && !(row.value "peers").isNull) = true
  · obtain ⟨hleechers, -⟩ := Bool.and_eq_true_iff.mp hpeers
    rw [if_pos hpeers]
    rw [isOk_bind_pure, Count.read_isOk_iff]
    exact ⟨fun h => ⟨hnull _ hleechers, fun _ => h⟩, fun h => h.2 hleechers⟩
  · rw [if_neg hpeers, isOk_bind_pure, Count.read_isOk_iff]
    refine ⟨fun h => ⟨h, fun hleechers => ?_⟩, fun h => h.1⟩
    refine hnull _ ?_
    simpa [hleechers] using hpeers

/-- **When something can be made of a row.**  A row that is not listed is passed over before its values are read. -/
theorem release?_isOk_iff (row : Row) (profile : SiteProfile) (now : Moment) :
    (row.release? profile now).isOk = true ↔ (row.IsListed profile → row.Legible profile.mappings now) := by
  by_cases htitle : row.text "title" = ""
  · refine iff_of_true ?_ fun h => absurd htitle h.1
    simp only [release?, htitle]
    rfl
  · have hne : (row.text "title").isEmpty = false := by simpa using htitle
    cases hlink : (row.source profile (row.text "title")).magnet.orElse fun _ =>
        (row.source profile (row.text "title")).download with
    | none =>
        refine iff_of_true ?_ fun h => ?_
        · simp only [release?, hne, hlink]
          rfl
        · have hsome := h.2
          rw [hlink] at hsome
          exact absurd hsome Bool.false_ne_true
    | some link =>
        have hlisted : row.IsListed profile := ⟨htitle, by rw [hlink]; rfl⟩
        simp only [hlisted, forall_const, release?, hne, hlink, Bool.false_eq_true, if_false]
        constructor
        · intro h
          obtain ⟨size, hsize, h⟩ := exists_of_isOk_bind h
          obtain ⟨seeders, hseeders, h⟩ := exists_of_isOk_bind h
          obtain ⟨leechers, hleechers, h⟩ := exists_of_isOk_bind h
          obtain ⟨published, hpublished, h⟩ := exists_of_isOk_bind h
          obtain ⟨sizeText, hsizeText, h⟩ := exists_of_isOk_bind h
          obtain ⟨timestamp, htimestamp, h⟩ := exists_of_isOk_bind h
          obtain ⟨grabs, hgrabs, h⟩ := exists_of_isOk_bind h
          obtain ⟨code, hcode, -⟩ := exists_of_isOk_bind h
          have hdate : (publishDate (row.value "date") now >>= Moment.timestamp).isOk = true := by
            rw [hpublished]
            change published.timestamp.isOk = true
            rw [htimestamp]
            rfl
          have hpeers := (row.leechers_isOk_iff _).mp (isOk_of_eq hleechers)
          refine ⟨(Size.read_isOk_iff _).mp (isOk_of_eq hsize), fun n hn => ?_,
            (Count.read_isOk_iff _).mp (isOk_of_eq hseeders), hpeers.1, hpeers.2,
            (Count.read_isOk_iff _).mp (isOk_of_eq hgrabs), (publishDate_isOk_iff _ now).mp hdate,
            (Category.codeOfSite_isOk_iff _ _).mp (isOk_of_eq hcode)⟩
          obtain rfl := Except.ok.inj (hsize.symm.trans hn)
          exact (Size.text_isOk_iff size).mp (isOk_of_eq hsizeText)
        · intro h
          obtain ⟨size, hsize⟩ := exists_of_isOk ((Size.read_isOk_iff _).mpr h.size)
          obtain ⟨seeders, hseeders⟩ := exists_of_isOk ((Count.read_isOk_iff _).mpr h.seeders)
          obtain ⟨leechers, hleechers⟩ := exists_of_isOk
            ((row.leechers_isOk_iff (Count.believable seeders)).mpr ⟨h.leechers, h.peers⟩)
          obtain ⟨published, hpublished, hwritten⟩ := exists_of_isOk_bind ((publishDate_isOk_iff _ now).mpr h.date)
          obtain ⟨sizeText, hsizeText⟩ := exists_of_isOk ((Size.text_isOk_iff size).mpr (h.written size hsize))
          obtain ⟨timestamp, htimestamp⟩ := exists_of_isOk hwritten
          obtain ⟨grabs, hgrabs⟩ := exists_of_isOk ((Count.read_isOk_iff _).mpr h.grabs)
          obtain ⟨code, hcode⟩ := exists_of_isOk ((Category.codeOfSite_isOk_iff _ _).mpr h.category)
          simp only [hsize, hseeders, hleechers, hpublished, hsizeText, htimestamp, hgrabs, hcode, bind, Except.bind]
          rfl

end Row

end MetaSearch
