import Mathlib.Algebra.GroupWithZero.Nat
import Mathlib.Data.Bool.AllAny
import Mathlib.Data.List.Chain
import MetaSearch.Proofs.Calendar.Phrase
import MetaSearch.Proofs.Calendar.Shown
import MetaSearch.Proofs.Number.Rounded
import MetaSearch.Proofs.Number.Written
import MetaSearch.Proofs.Text.Folded

/-!
# Phrases that end in `ago`

A phrase such as `1 year, 2 months, 3d ago` is cut back into the parts that it is written from (`parts_agoText`), and no
earlier rule takes it for something else (`phrase_of_agoText`).  So it names the moment to which its parts lead back one
after the other (`relative?_ago`), where months end earlier than the day does take the last of their days.
-/

namespace MetaSearch.Calendar

/-! ## Phrases in writing -/

/-- A part of a phrase: so many of a unit under one of its names, with or without a blank in between. -/
structure Lapse where
  amount : Nat
  unit : TimeUnit
  word : String
  spaced : Bool
  small : amount < Nat.pow 2 53
  named : ∃ words, (unit, words) ∈ unitWords ∧ word ∈ words

/-- The text of a part. -/
def Lapse.text (l : Lapse) : String :=
  String.ofList (Nat.toDigits 10 l.amount) ++ (if l.spaced then " " else "") ++ l.word

/-- The text of a phrase. -/
def agoText (lapses : List Lapse) : String :=
  Text.join ", " (lapses.map Lapse.text) ++ " ago"

/-- What follows a part in a phrase. -/
def following : List Lapse → List Char
  | [] => " ago".toList
  | l :: rest => ',' :: ' ' :: (l.text.toList ++ following rest)

theorem toList_agoText (l : Lapse) (rest : List Lapse) :
    (agoText (l :: rest)).toList = l.text.toList ++ following rest := by
  induction rest generalizing l with
  | nil => simp [agoText, Text.join, following]
  | cons next rest ih =>
      have hnext := ih next
      simp only [agoText, Text.join, List.map_cons, String.toList_append, String.intercalate_cons_cons] at hnext ⊢
      rw [following, ← hnext]
      simp

/-- What is read of a part. -/
def Lapse.part (l : Lapse) : Part :=
  ⟨Binary64.ofDecimal false l.amount 0, l.word, l.text.toList.length⟩

variable {lapses : List Lapse}

theorem Lapse.toList_text (l : Lapse) :
    l.text.toList = Nat.toDigits 10 l.amount ++ ((if l.spaced then [' '] else []) ++ l.word.toList) := by
  cases hspaced : l.spaced <;> simp [Lapse.text, hspaced]

/-- A number is parted from its word by a blank, if at all. -/
theorem Lapse.eq_of_mem_gap (l : Lapse) {c : Char} (h : c ∈ if l.spaced then [' '] else []) : c = ' ' := by
  cases hspaced : l.spaced with
  | true => simpa [hspaced] using h
  | false => simp [hspaced] at h

/-- No `d` stands after an `o` or an `r`, so that no `day` belongs to `today` or `yesterday`. -/
def DayApart (s : List Char) : Prop :=
  s.IsChain fun a b => b = 'd' → a ≠ 'o' ∧ a ≠ 'r'

/-- The names of the units consist of small letters other than `j`, and each stands for its unit. -/
theorem Lapse.word_spec (l : Lapse) : unit? l.word = some l.unit ∧ l.word.toList ≠ [] ∧
    (∀ c ∈ l.word.toList, isSmallLetter c = true ∧ c ≠ 'j') ∧ DayApart l.word.toList := by
  have hwords : ∀ entry ∈ unitWords, ∀ word ∈ entry.2, unit? word = some entry.1 ∧ word.toList ≠ [] ∧
      (word.toList.all fun c => isSmallLetter c && c != 'j') = true ∧
      word.toList.IsChain fun a b => b = 'd' → a ≠ 'o' ∧ a ≠ 'r' := by
    decide +kernel
  obtain ⟨words, hentry, hword⟩ := l.named
  obtain ⟨hunit, hne, hletters, happart⟩ := hwords _ hentry _ hword
  refine ⟨hunit, hne, ?_, happart⟩
  intro c hc
  have hletter := List.all_eq_true.mp hletters c hc
  rwa [Bool.and_eq_true, bne_iff_ne] at hletter

/-- A part is followed by a comma or a blank. -/
theorem exists_following_eq (rest : List Lapse) : ∃ c s, following rest = c :: s ∧ (c = ',' ∨ c = ' ') := by
  cases rest with
  | nil => exact ⟨' ', "ago".toList, rfl, .inr rfl⟩
  | cons l rest => exact ⟨',', _, rfl, .inl rfl⟩

/-! ## Cutting a phrase into its parts -/

/-- A small letter is no digit, no blank and no mark. -/
theorem of_isSmallLetter {c : Char} (h : isSmallLetter c = true) :
    Text.isDecimal c = false ∧ Text.isBlank c = false ∧ 97 ≤ c.toNat ∧ c.toNat ≤ 122 := by
  have hrange : 97 ≤ c.toNat ∧ c.toNat ≤ 122 := by
    simp only [isSmallLetter, Bool.and_eq_true, decide_eq_true_eq, Char.le_def, UInt32.le_iff_toNat_le] at h
    exact h
  have hdigit : c.isDigit = false := by
    rw [← Bool.not_eq_true, Char.isDigit, Bool.and_eq_true, decide_eq_true_eq, decide_eq_true_eq]
    intro hbetween
    have hless : c.toNat ≤ 57 := UInt32.le_iff_toNat_le.mp hbetween.2
    omega
  have hblank : Text.isBlank c = false := by
    rw [← Bool.not_eq_true]
    simp only [Text.isBlank, Bool.or_eq_true, Bool.and_eq_true, decide_eq_true_eq, beq_iff_eq]
    omega
  refine ⟨?_, hblank, hrange⟩
  rw [Text.isDecimal, Text.decimalValue?, hdigit, if_neg Bool.false_ne_true, if_pos (by omega)]
  rfl

/-- Digits are read as an amount up to what is neither a digit nor a point. -/
theorem amountOf?_toDigits (n : Nat) {c : Char} {s : List Char} (hdecimal : Text.isDecimal c = false) (hpoint : c ≠ '.') :
    amountOf? (Nat.toDigits 10 n ++ c :: s) = some (Binary64.ofDecimal false n 0, c :: s) := by
  have hdigits : ∀ d ∈ Nat.toDigits 10 n, Text.isDecimal d = true :=
    fun d hd => Numeral.isDecimal_of_isDigit (Numeral.isDigit_of_mem_toDigits hd)
  have hsome : (Nat.toDigits 10 n).isEmpty = false := by
    simp [Nat.toDigits_ne_nil]
  have hvalue : digitsValue (Nat.toDigits 10 n) = n := Numeral.ofDigits_toDigits n
  have hnext : ¬ Text.isDecimal c = true := by simp [hdecimal]
  unfold amountOf? digitsOf
  rw [List.takeWhile_append_of_pos hdigits, List.dropWhile_append_of_pos hdigits, List.takeWhile_cons_of_neg hnext,
    List.dropWhile_cons_of_neg hnext, List.append_nil]
  dsimp only
  rw [hsome, if_neg Bool.false_ne_true]
  split
  · rename_i heq
    exact absurd (List.cons.inj heq).1 hpoint
  · simp [hvalue]

/-- The number of a part is read up to the word, but for the blank between. -/
theorem amountOf?_lapse (l : Lapse) (s : List Char) :
    ∃ gap : List Char, amountOf? (l.text.toList ++ s) =
        some (Binary64.ofDecimal false l.amount 0, gap ++ (l.word.toList ++ s)) ∧
      (gap ++ (l.word.toList ++ s)).dropWhile Text.isBlank = l.word.toList ++ s := by
  obtain ⟨-, hnonempty, hletters, -⟩ := l.word_spec
  obtain ⟨first, word, hword⟩ := List.exists_cons_of_ne_nil hnonempty
  obtain ⟨hdecimal, hblank, hlow, -⟩ := of_isSmallLetter (hletters first (by rw [hword]; exact List.mem_cons_self)).1
  have hpoint : first ≠ '.' := by
    rintro rfl
    exact absurd hlow (by decide)
  have hstay : ((first :: word) ++ s).dropWhile Text.isBlank = (first :: word) ++ s :=
    List.dropWhile_cons_of_neg (by simp [hblank])
  rw [l.toList_text, hword]
  cases l.spaced with
  | true =>
      refine ⟨[' '], ?_, hstay⟩
      rw [List.append_assoc]
      exact amountOf?_toDigits l.amount (by decide) (by decide)
  | false =>
      refine ⟨[], ?_, hstay⟩
      rw [List.append_assoc]
      exact amountOf?_toDigits l.amount hdecimal hpoint

/-- A part is read up to its end. -/
theorem partAt?_lapse (edge : Bool) (l : Lapse) (rest : List Lapse) :
    partAt? edge (l.text.toList ++ following rest) = some l.part := by
  obtain ⟨-, hnonempty, hletters, -⟩ := l.word_spec
  obtain ⟨mark, more, hfollowing, hmark⟩ := exists_following_eq rest
  obtain ⟨gap, hamount, hskip⟩ := amountOf?_lapse l (following rest)
  have hend : ¬ isSmallLetter mark = true := by
    rcases hmark with rfl | rfl <;> decide
  have hwordOf : wordOf (l.word.toList ++ following rest) = l.word.toList := by
    rw [wordOf, List.takeWhile_append_of_pos fun c hc => (hletters c hc).1, hfollowing,
      List.takeWhile_cons_of_neg hend, List.append_nil]
  have hsome : l.word.toList.isEmpty = false := by
    rwa [← Bool.not_eq_true, List.isEmpty_iff]
  have hlength : (l.text.toList ++ following rest).length - (l.word.toList ++ following rest).length +
      l.word.toList.length = l.text.toList.length := by
    simp only [l.toList_text, List.length_append]
    omega
  unfold partAt?
  simp only [hamount, hskip, hwordOf, hsome, hlength, Bool.false_eq_true, if_false, String.ofList_toList]
  rfl

/-- The characters of a part are passed one by one. -/
theorem partsFrom_skip (front rest : List Char) (edge : Bool) :
    ∃ edge', partsFrom front.length edge (front ++ rest) = partsFrom 0 edge' rest := by
  induction front generalizing edge with
  | nil => exact ⟨edge, rfl⟩
  | cons c front ih => exact ih _

/-- Nothing begins at a comma or a blank. -/
theorem partsFrom_mark (edge : Bool) {c : Char} (hc : c = ',' ∨ c = ' ') (s : List Char) :
    partsFrom 0 edge (c :: s) = partsFrom 0 (!Text.isWordChar c) s := by
  have hnone : partAt? edge (c :: s) = none := by
    rcases hc with rfl | rfl <;> cases edge <;> rfl
  rw [partsFrom, hnone]

theorem partsFrom_lapse (edge : Bool) (l : Lapse) (rest : List Lapse) :
    ∃ edge', partsFrom 0 edge (l.text.toList ++ following rest) = l.part :: partsFrom 0 edge' (following rest) := by
  have hread := partAt?_lapse edge l rest
  have hlength : l.part.length = l.text.toList.length := rfl
  cases htext : l.text.toList with
  | nil => simp [l.toList_text, Nat.toDigits_ne_nil] at htext
  | cons c front =>
      obtain ⟨edge', hskip⟩ := partsFrom_skip front (following rest) (!Text.isWordChar c)
      rw [htext, List.cons_append] at hread
      rw [htext, List.length_cons] at hlength
      refine ⟨edge', ?_⟩
      rw [List.cons_append, partsFrom, hread]
      simp only [hlength, Nat.add_sub_cancel, hskip]

/-- **A phrase is cut into its parts.** -/
theorem partsFrom_lapses (edge : Bool) (l : Lapse) (rest : List Lapse) :
    partsFrom 0 edge (l.text.toList ++ following rest) = (l :: rest).map Lapse.part := by
  induction rest generalizing edge l with
  | nil =>
      have hend : ∀ edge, partsFrom 0 edge (following []) = [] := by
        intro edge
        cases edge <;> rfl
      obtain ⟨edge', hpart⟩ := partsFrom_lapse edge l []
      rw [hpart, hend]
      rfl
  | cons next rest ih =>
      obtain ⟨edge', hpart⟩ := partsFrom_lapse edge l (next :: rest)
      rw [hpart, following, partsFrom_mark _ (.inl rfl), partsFrom_mark _ (.inr rfl), ih]
      rfl

theorem parts_agoText (hne : lapses ≠ []) : parts (agoText lapses) = lapses.map Lapse.part := by
  obtain ⟨l, rest, rfl⟩ := List.exists_cons_of_ne_nil hne
  rw [parts, toList_agoText, partsFrom_lapses]

/-! ## What the phrase is not -/

/-- A digit, a blank, a comma or a small letter other than `j`. -/
def InPhrase (c : Char) : Prop :=
  c.isDigit = true ∨ c = ' ' ∨ c = ',' ∨ isSmallLetter c = true ∧ c ≠ 'j'

instance : DecidablePred InPhrase := fun c =>
  inferInstanceAs (Decidable (c.isDigit = true ∨ c = ' ' ∨ c = ',' ∨ isSmallLetter c = true ∧ c ≠ 'j'))

theorem inPhrase_of_mem_text {l : Lapse} {c : Char} (h : c ∈ l.text.toList) : InPhrase c := by
  obtain ⟨-, -, hletters, -⟩ := l.word_spec
  rw [l.toList_text, List.mem_append, List.mem_append] at h
  rcases h with hdigit | hgap | hword
  · exact .inl (Numeral.isDigit_of_mem_toDigits hdigit)
  · exact .inr (.inl (l.eq_of_mem_gap hgap))
  · exact .inr (.inr (.inr (hletters c hword)))

theorem inPhrase_of_mem {l : Lapse} {rest : List Lapse} {c : Char} (h : c ∈ l.text.toList ++ following rest) :
    InPhrase c := by
  induction rest generalizing l with
  | nil =>
      have hago : ∀ c ∈ following [], InPhrase c := List.all_iff_forall_prop.mp (by decide)
      rcases List.mem_append.mp h with hpart | hend
      · exact inPhrase_of_mem_text hpart
      · exact hago c hend
  | cons next rest ih =>
      rw [following, List.mem_append, List.mem_cons, List.mem_cons] at h
      rcases h with hpart | hcomma | hblank | hlater
      · exact inPhrase_of_mem_text hpart
      · exact .inr (.inr (.inl hcomma))
      · exact .inr (.inl hblank)
      · exact ih hlater

/-- Characters other than `d` can stand anywhere. -/
theorem dayApart_of_not_mem {s : List Char} (h : 'd' ∉ s) : DayApart s := by
  induction s with
  | nil => exact .nil
  | cons c s ih =>
      refine List.isChain_cons.mpr ⟨?_, ih fun hmem => h (List.mem_cons_of_mem c hmem)⟩
      rintro d hd rfl
      exact absurd (List.mem_cons_of_mem c (List.mem_of_mem_head? hd)) h

/-- A word stands after its number, and marks stand after the word. -/
theorem dayApart_lapse {l : Lapse} {s : List Char} (hs : DayApart s) (hhead : ∀ c, s.head? = some c → c ≠ 'd') :
    DayApart (l.text.toList ++ s) := by
  obtain ⟨-, -, -, hword⟩ := l.word_spec
  have hnumber : ∀ c ∈ Nat.toDigits 10 l.amount ++ (if l.spaced then [' '] else []), c.isDigit = true ∨ c = ' ' := by
    intro c hc
    rcases List.mem_append.mp hc with hdigit | hgap
    · exact .inl (Numeral.isDigit_of_mem_toDigits hdigit)
    · exact .inr (l.eq_of_mem_gap hgap)
  have hfar : ∀ c : Char, c.isDigit = true ∨ c = ' ' → c ≠ 'd' ∧ c ≠ 'o' ∧ c ≠ 'r' := by
    intro c hc
    refine ⟨?_, ?_, ?_⟩ <;> rintro rfl <;> revert hc <;> decide
  rw [l.toList_text, ← List.append_assoc, DayApart, List.isChain_append, List.isChain_append]
  refine ⟨⟨dayApart_of_not_mem fun hmem => (hfar _ (hnumber _ hmem)).1 rfl, hword, ?_⟩, hs, ?_⟩
  · intro c hc d hd hday
    exact (hfar c (hnumber c (List.mem_of_getLast? hc))).2
  · intro c hc d hd hday
    exact absurd hday (hhead d hd)

theorem dayApart_phrase (l : Lapse) (rest : List Lapse) : DayApart (l.text.toList ++ following rest) := by
  induction rest generalizing l with
  | nil =>
      apply dayApart_lapse
      · unfold DayApart
        decide
      · rintro c hc rfl
        simp [following] at hc
  | cons next rest ih =>
      apply dayApart_lapse
      · rw [following, DayApart, List.isChain_cons, List.isChain_cons]
        refine ⟨by simp, ?_, ih next⟩
        intro c hc hday
        decide
      · rintro c hc rfl
        simp [following] at hc

/-- The phrase begins with a digit. -/
theorem head?_phrase {l : Lapse} {rest : List Lapse} {c : Char} (h : (agoText (l :: rest)).toList.head? = some c) :
    c.isDigit = true := by
  rw [toList_agoText, l.toList_text, List.append_assoc, List.head?_append] at h
  cases hdigits : (Nat.toDigits 10 l.amount).head? with
  | none => simp [Nat.toDigits_ne_nil] at hdigits
  | some d =>
      rw [hdigits] at h
      exact Option.some.inj h ▸ Numeral.isDigit_of_mem_toDigits (List.mem_of_mem_head? hdigits)

theorem getLast?_phrase (lapses : List Lapse) : (agoText lapses).toList.getLast? = some 'o' := by
  rw [agoText, String.toList_append, List.getLast?_append]
  rfl

/-- There are no blanks around a phrase, whatever its case. -/
theorem strip_of_lower_eq {text : String} (hne : lapses ≠ []) (htext : Text.lower text = agoText lapses) :
    Text.strip text = text := by
  apply Text.strip_of_lower
  · intro c hc
    obtain ⟨l, rest, rfl⟩ := List.exists_cons_of_ne_nil hne
    rw [htext] at hc
    exact (Text.isBlank_and_upperExpansion_of_isDigit (head?_phrase hc)).1
  · intro c hc
    rw [htext, getLast?_phrase] at hc
    rw [← Option.some.inj hc]
    decide

/-- A phrase holds no word in which `day` follows an `o` or an `r`. -/
theorem not_isInfix_agoText (hne : lapses ≠ []) {word : List Char} (hword : ¬ DayApart word) :
    ¬ word <:+: (agoText lapses).toList := by
  intro hfound
  obtain ⟨l, rest, rfl⟩ := List.exists_cons_of_ne_nil hne
  rw [toList_agoText] at hfound
  have happart : DayApart word := List.IsChain.infix (dayApart_phrase l rest) hfound
  exact hword happart

/-- **A phrase that ends in `ago` is read as its parts**, whatever its case. -/
theorem phrase_of_agoText {text : String} (hne : lapses ≠ []) (htext : Text.lower text = agoText lapses) :
    Phrase.of text = .ago (lapses.map Lapse.part) := by
  have hstrip := strip_of_lower_eq hne htext
  have hcharacters : ∀ c ∈ (agoText lapses).toList, InPhrase c := by
    obtain ⟨l, rest, rfl⟩ := List.exists_cons_of_ne_nil hne
    rw [toList_agoText]
    exact fun c => inPhrase_of_mem
  have htoday : ¬ "today".toList <:+: (agoText lapses).toList := by
    apply not_isInfix_agoText hne
    unfold DayApart
    decide
  have hyesterday : ¬ "yesterday".toList <:+: (agoText lapses).toList := by
    apply not_isInfix_agoText hne
    unfold DayApart
    decide
  have hago : Text.contains (agoText lapses) "ago" = true := by
    apply Text.holds_of_isInfix
    refine ⟨(Text.join ", " (lapses.map Lapse.text)).toList ++ [' '], [], ?_⟩
    simp [agoText]
  have hempty : (agoText lapses).isEmpty = false := by
    simp [agoText]
  have hnow : (agoText lapses == "now") = false := by
    rw [beq_eq_false_iff_ne]
    intro heq
    rw [heq] at hago
    exact absurd hago (by decide)
  have hjust : Text.contains (agoText lapses) "just now" = false := by
    rw [← Bool.not_eq_true, Text.contains, Text.holds_iff_isInfix]
    intro hfound
    exact absurd (hcharacters 'j' (hfound.subset (by decide))) (by decide)
  have hplus : '+' ∉ (agoText lapses).toList := by
    intro hmem
    exact absurd (hcharacters '+' hmem) (by decide)
  have hnotToday : Text.contains (agoText lapses) "today" = false := by
    rwa [← Bool.not_eq_true, Text.contains, Text.holds_iff_isInfix]
  have hnotYesterday : Text.contains (agoText lapses) "yesterday" = false := by
    rwa [← Bool.not_eq_true, Text.contains, Text.holds_iff_isInfix]
  simp only [Phrase.of, hstrip, htext, hempty, hnow, hjust, hnotToday, hnotYesterday, hago,
    dayTime?_eq_none htoday hyesterday, plusAmount?_eq_none hplus, parts_agoText hne, Bool.or_self, Bool.not_true,
    Bool.false_eq_true, if_false]

/-! ## Moving back part by part -/

/-- A part leads back to a moment on the same clock: one that is exactly so much earlier, or one as many calendar months
earlier at the same time of the same day of the month, or of the month's last day where the month has no such day. -/
def Lapse.LeadsBack (l : Lapse) (m u : Moment) : Prop :=
  u.offset = m.offset ∧
    match l.unit.length with
    | .inl ticks => u.ticks + l.amount * ticks = m.ticks
    | .inr months => u.ofDay = m.ofDay ∧ u.months + l.amount * months = m.months ∧
        u.date.day = min m.date.day (Date.daysInMonth u.date.year u.date.month)

/-- The parts of a phrase lead back one after the other. -/
def LeadBack : List Lapse → Moment → Moment → Prop
  | [], m, u => m = u
  | l :: rest, m, u => ∃ earlier, l.LeadsBack m earlier ∧ LeadBack rest earlier u

/-- The amount of a part is counted exactly. -/
theorem Lapse.amount_part (l : Lapse) : (∀ factor, ticksOf? factor l.part.amount = some (l.amount * factor)) ∧
    l.part.amount.truncate? = some (l.amount : Int) := by
  obtain ⟨j, hamount⟩ := Binary64.exists_ofDecimal_eq l.small
  have hpos : 0 < Nat.pow 2 j := Nat.two_pow_pos j
  have hpart : l.part.amount = .finite false (l.amount * Nat.pow 2 j) (-(j : Int)) := hamount
  rw [hpart]
  constructor
  · intro factor
    simp only [ticksOf?, Binary64.ratio_neg, Nat.mul_mod_left, if_true, Nat.mul_div_cancel l.amount hpos]
  · rw [Binary64.truncate?_eq, Nat.mul_div_cancel l.amount hpos]

theorem subtract_lapse {l : Lapse} {m u : Moment} : subtract m l.part.amount l.unit = .ok u ↔ l.LeadsBack m u := by
  obtain ⟨hticks, hmonths⟩ := l.amount_part
  rw [subtract, Lapse.LeadsBack]
  cases l.unit.length with
  | inl factor =>
      simp only [hticks, Moment.shift_eq_ok_iff]
      omega
  | inr months =>
      have hsame : u.months = m.months + -((l.amount : Int) * months) ↔ u.months + l.amount * months = m.months := by
        omega
      simp only [hmonths, Moment.shiftMonths_eq_ok_iff, hsame]

/-- The parts are subtracted one after the other. -/
theorem subtractParts_lapses {m u : Moment} {any : Bool} :
    subtractParts m (lapses.map Lapse.part) = .ok (u, any) ↔ LeadBack lapses m u ∧ any = !lapses.isEmpty := by
  induction lapses generalizing m any with
  | nil =>
      rw [List.map_nil, subtractParts, LeadBack, Except.ok.injEq, Prod.mk.injEq]
      exact and_congr_right fun _ => eq_comm
  | cons l rest ih =>
      have hunit : unit? l.part.word = some l.unit := l.word_spec.1
      rw [List.map_cons, subtractParts, hunit, LeadBack]
      constructor
      · intro h
        obtain ⟨earlier, hstep, h⟩ := exists_of_bind_eq_ok h
        obtain ⟨⟨last, known⟩, hlater, h⟩ := exists_of_bind_eq_ok h
        obtain ⟨rfl, rfl⟩ := Prod.mk.inj (Except.ok.inj h)
        exact ⟨⟨earlier, subtract_lapse.mp hstep, (ih.mp hlater).1⟩, rfl⟩
      · rintro ⟨⟨earlier, hstep, hlater⟩, rfl⟩
        simp only [subtract_lapse.mpr hstep, ih.mpr ⟨hlater, rfl⟩, bind, Except.bind]
        rfl

theorem relative?_eq_some_iff {text : String} {now u : Moment} (hne : lapses ≠ [])
    (htext : Text.lower text = agoText lapses) : relative? text now = .ok (some u) ↔ LeadBack lapses now u := by
  have hsome : (!lapses.isEmpty) = true := by simpa using hne
  rw [relative?_eq, phrase_of_agoText hne htext, Phrase.moment?]
  constructor
  · intro h
    obtain ⟨⟨last, any⟩, hparts, h⟩ := exists_of_bind_eq_ok h
    obtain ⟨hlead, rfl⟩ := subtractParts_lapses.mp hparts
    simp only [hsome, if_true, Except.ok.injEq, Option.some.injEq] at h
    rwa [← h]
  · intro hlead
    rw [subtractParts_lapses.mpr ⟨hlead, hsome.symm⟩]
    rfl

/-! ## Units of a fixed length -/

/-- Seconds to weeks have a fixed length; months and years do not. -/
def TimeUnit.IsExact (unit : TimeUnit) : Prop :=
  unit ≠ .months ∧ unit ≠ .years

/-- The length of a part in microseconds, where its unit has a fixed one. -/
def Lapse.ticks (l : Lapse) : Nat :=
  match l.unit.length with
  | .inl ticks => l.amount * ticks
  | .inr _ => 0

/-- A part of fixed length is one step back. -/
theorem subtract_of_isExact {l : Lapse} (h : l.unit.IsExact) (m : Moment) :
    subtract m l.part.amount l.unit = m.shift (-(l.ticks : Int)) := by
  have hlength : ∃ ticks, l.unit.length = .inl ticks := by
    cases hunit : l.unit with
    | months => exact absurd hunit h.1
    | years => exact absurd hunit h.2
    | seconds | minutes | hours | days | weeks => exact ⟨_, rfl⟩
  obtain ⟨ticks, hlength⟩ := hlength
  rw [subtract, Lapse.ticks, hlength]
  simp only [l.amount_part.1]

/-- **Parts of fixed length add up.** -/
theorem subtractParts_of_isExact {m : Moment} (h : ∀ l ∈ lapses, l.unit.IsExact) :
    (·.1) <$> subtractParts m (lapses.map Lapse.part) = m.shift (-((lapses.map Lapse.ticks).sum : Int)) := by
  induction lapses generalizing m with
  | nil =>
      have hstay : m.shift 0 = .ok m := Moment.shift_eq_ok_iff.mpr ⟨rfl, (Int.add_zero _).symm⟩
      exact hstay.symm
  | cons l rest ih =>
      obtain ⟨hl, hrest⟩ := List.forall_mem_cons.mp h
      have hunit : unit? l.part.word = some l.unit := l.word_spec.1
      rw [List.map_cons, subtractParts, hunit, List.map_cons, List.sum_cons, ← Moment.shift_bind_shift]
      simp only [subtract_of_isExact hl, ← ih hrest]
      cases m.shift (-(l.ticks : Int)) with
      | error f => rfl
      | ok earlier =>
          change _ = (·.1) <$> subtractParts earlier (rest.map Lapse.part)
          cases hlater : subtractParts earlier (rest.map Lapse.part) with
          | error f => simp [hlater, bind, Except.bind, Functor.map, Except.map]
          | ok found => simp [hlater, bind, Except.bind, Functor.map, Except.map]

theorem relative?_of_isExact {text : String} {now : Moment} (hne : lapses ≠ [])
    (htext : Text.lower text = agoText lapses) (h : ∀ l ∈ lapses, l.unit.IsExact) :
    relative? text now = some <$> now.shift (-((lapses.map Lapse.ticks).sum : Int)) := by
  have hsome : (!lapses.isEmpty) = true := by simpa using hne
  rw [relative?_eq, phrase_of_agoText hne htext, Phrase.moment?, ← subtractParts_of_isExact h]
  cases hparts : subtractParts now (lapses.map Lapse.part) with
  | error f => rfl
  | ok found =>
      have hany : found.2 = true := (subtractParts_lapses.mp hparts).2.trans hsome
      simp only [bind, Except.bind, hany, if_true]
      rfl

/-- **Phrases that end in `ago`.**  The phrase names the moment to which its parts lead back one after the other.  Where all
of them have a fixed length, that is the moment which lies their sum before the current time, in whatever order. -/
theorem relative?_ago {text : String} {now : Moment} (hne : lapses ≠ []) (htext : Text.lower text = agoText lapses) :
    (∀ u, relative? text now = .ok (some u) ↔ LeadBack lapses now u) ∧
    ((∀ l ∈ lapses, l.unit.IsExact) →
      (∀ u, relative? text now = .ok (some u) ↔
        u.offset = now.offset ∧ u.ticks + (lapses.map Lapse.ticks).sum = now.ticks) ∧
      ∀ text' lapses', lapses'.Perm lapses → Text.lower text' = agoText lapses' →
        relative? text' now = relative? text now) := by
  refine ⟨fun u => relative?_eq_some_iff hne htext, fun hexact => ⟨?_, ?_⟩⟩
  · intro u
    rw [relative?_of_isExact hne htext hexact]
    constructor
    · intro h
      obtain ⟨v, hshift, hv⟩ := exists_of_map_eq_ok h
      obtain rfl := Option.some.inj hv
      obtain ⟨hoffset, hticks⟩ := Moment.shift_eq_ok_iff.mp hshift
      exact ⟨hoffset, by omega⟩
    · rintro ⟨hoffset, hticks⟩
      rw [Moment.shift_eq_ok_iff.mpr ⟨hoffset, by omega⟩]
      rfl
  · intro text' lapses' hperm htext'
    have hne' : lapses' ≠ [] := fun hnil => hne (List.nil_perm.mp (hnil ▸ hperm))
    have hexact' : ∀ l ∈ lapses', l.unit.IsExact := fun l hl => hexact l (hperm.subset hl)
    have hsum : (lapses'.map Lapse.ticks).sum = (lapses.map Lapse.ticks).sum := (hperm.map Lapse.ticks).sum_nat
    rw [relative?_of_isExact hne htext hexact, relative?_of_isExact hne' htext' hexact', hsum]

/-- A month, by its short name. -/
def oneMonth : Lapse :=
  ⟨1, .months, "mo", false, by decide, ["mo", "mon", "mons", "month", "months"], by decide, by decide⟩

/-- Three days. -/
def threeDays : Lapse :=
  ⟨3, .days, "days", true, by decide, ["d", "day", "days"], by decide, by decide⟩

/-- Two hours. -/
def twoHours : Lapse :=
  ⟨2, .hours, "hrs", true, by decide, ["h", "hr", "hrs", "hour", "hours"], by decide, by decide⟩

/-- A month before 31 March it is 29 February, and three days before that it is 26 February.  Days and hours can be
swapped. -/
theorem relative?_ago_march :
    relative? "1mO, 3 DAYS AGO" Moment.endOfMarch =
      .ok (some ⟨Moment.epochTicks + 1708962300 * 1000000, 0, by decide⟩) ∧
    relative? "2 Hrs, 3 Days Ago" Moment.endOfMarch = relative? "3 days, 2 hrs ago" Moment.endOfMarch ∧
    relative? "3 days, 2 hrs ago" Moment.endOfMarch =
      .ok (some ⟨Moment.epochTicks + 1711633500 * 1000000, 0, by decide⟩) := by
  have hmonth : Text.lower "1mO, 3 DAYS AGO" = agoText [oneMonth, threeDays] := by decide +kernel
  have hdays : Text.lower "3 days, 2 hrs ago" = agoText [threeDays, twoHours] := by decide +kernel
  have hhours : Text.lower "2 Hrs, 3 Days Ago" = agoText [twoHours, threeDays] := by decide +kernel
  have hfirst : oneMonth.LeadsBack Moment.endOfMarch
      ⟨Moment.epochTicks + 1709221500 * 1000000, 0, by decide⟩ := by
    refine ⟨by decide, ?_⟩
    change _ ∧ _ ∧ _
    decide +kernel
  have hsecond : threeDays.LeadsBack ⟨Moment.epochTicks + 1709221500 * 1000000, 0, by decide⟩
      ⟨Moment.epochTicks + 1708962300 * 1000000, 0, by decide⟩ := by
    refine ⟨by decide, ?_⟩
    change _ + _ = _
    decide
  have hexact : ∀ l ∈ [threeDays, twoHours], l.unit.IsExact := by
    intro l hl
    rcases List.mem_pair.mp hl with rfl | rfl
    · exact ⟨by decide, by decide⟩
    · exact ⟨by decide, by decide⟩
  obtain ⟨hlead, -⟩ := relative?_ago (by decide) hmonth
  obtain ⟨-, hdaysBack⟩ := relative?_ago (by decide) hdays
  obtain ⟨hsum, horder⟩ := hdaysBack hexact
  exact ⟨(hlead _).mpr ⟨_, hfirst, _, hsecond, rfl⟩, horder _ _ (List.Perm.swap _ _ _) hhours,
    (hsum _).mpr ⟨rfl, by decide⟩⟩

end MetaSearch.Calendar
