import MetaSearch.Extract.Path
import MetaSearch.Proofs.Number.Written
import MetaSearch.Proofs.Text.Parts
import MetaSearch.Proofs.Text.Trimmed

/-!
# Paths step by step

A path is written as its keys with points between, each position in brackets behind what precedes it (`written`).  Reading
cuts the text at its points and each part at its brackets, and `resolve?_written` says what that comes to: the steps are
followed one by one, with or without the mark of the whole document in front.  There is one exception.  A position with
more digits than a number may be written with is read before it is looked at, so a path that comes to one is a fault where
it should lead nowhere.
-/

namespace MetaSearch

namespace PathStep

/-- A step that can be told from its neighbours in a path: keys are not empty and hold neither points nor brackets. -/
def IsPlain : PathStep → Prop
  | .key name => name ≠ "" ∧ ∀ c ∈ name.toList, c ≠ '.' ∧ DocumentPath.isBracket c = false
  | .index _ => True

/-- A position that has more digits than a number may be written with. -/
def isLong : PathStep → Bool
  | .key _ => false
  | .index position => 10 ^ Numeral.maxDigits ≤ position

end PathStep

namespace Datum

/-! ## What steps meet -/

/-- What a step meets: the value in its place, null where a map has no such key. -/
def meet? (d : Datum) : PathStep → Option Datum
  | .key name =>
    match d with
    | map _ => some ((d.get? name).getD null)
    | _ => none
  | .index position =>
    match d with
    | list xs => xs[position]?
    | _ => none

/-- What steps meet one after the other, whatever they pass. -/
def meetAll? : Datum → List PathStep → Option Datum
  | d, [] => some d
  | d, s :: rest => (d.meet? s).bind (meetAll? · rest)

/-- Anything but null. -/
def present? (found : Option Datum) : Option Datum :=
  found.filter fun d => !d.isNull

/-- What is not null is present. -/
theorem present?_some {d : Datum} (h : d.isNull = false) : present? (some d) = some d := by
  simp [present?, Option.filter, h]

theorem eq_null_of_isNull {d : Datum} (h : d.isNull = true) : d = null := by
  cases d with
  | null => rfl
  | _ => exact absurd h Bool.false_ne_true

/-- Nothing is met in null. -/
theorem meet?_null (s : PathStep) : null.meet? s = none := by
  cases s <;> rfl

/-- A step leads to what it meets, unless that is null. -/
theorem step?_eq (d : Datum) (s : PathStep) : d.step? s = present? (d.meet? s) := by
  cases s with
  | key name =>
      cases d with
      | map entries =>
          rw [step?, meet?]
          cases (map entries).get? name with
          | none => rfl
          | some value => cases value <;> rfl
      | _ => rfl
  | index position =>
      cases d with
      | list xs =>
          rw [step?, meet?]
          cases xs[position]? with
          | none => rfl
          | some value => cases value <;> rfl
      | _ => rfl

/-- Steps lead to what they meet, unless that is null. -/
theorem follow?_eq {d : Datum} (hd : d.isNull = false) (steps : List PathStep) :
    d.follow? steps = present? (d.meetAll? steps) := by
  induction steps generalizing d with
  | nil => exact (present?_some hd).symm
  | cons s rest ih =>
      rw [follow?, meetAll?, step?_eq]
      cases hmet : d.meet? s with
      | none => rfl
      | some e =>
          cases he : e.isNull with
          | false =>
              rw [present?_some he]
              exact ih he
          | true =>
              -- behind null there is nothing to meet
              obtain rfl := eq_null_of_isNull he
              rw [Option.bind_some]
              cases rest with
              | nil => rfl
              | cons t rest => rw [meetAll?, meet?_null]; rfl

/-! ## Following with positions that cannot be read -/

/-- Follows steps one by one; a position is read before it is looked at, and one that is too long is a fault. -/
def pursue? : Datum → List PathStep → Except Fault (Option Datum)
  | d, [] => .ok (some d)
  | d, s :: rest =>
    if s.isLong then .error .notANumber
    else
      match d.meet? s with
      | none => .ok none
      | some e => e.pursue? rest

/-- Following goes on where it came to. -/
theorem pursue?_append (d : Datum) (front rest : List PathStep) :
    d.pursue? (front ++ rest) = (d.pursue? front).bind fun found => found.elim (.ok none) (·.pursue? rest) := by
  induction front generalizing d with
  | nil => rfl
  | cons s front ih =>
      rw [List.cons_append, pursue?, pursue?]
      split
      · rfl
      · cases d.meet? s with
        | none => rfl
        | some e => exact ih e

/-- Steps come to a position that is too long: all before it meet something. -/
def MeetsLong (d : Datum) (steps : List PathStep) : Prop :=
  ∃ front position rest, steps = front ++ position :: rest ∧ position.isLong = true ∧ (d.meetAll? front).isSome

/-- A position that is too long is come to at once or behind the first step. -/
theorem meetsLong_cons {d : Datum} {s : PathStep} {rest : List PathStep} :
    d.MeetsLong (s :: rest) ↔ s.isLong = true ∨ ∃ e, d.meet? s = some e ∧ e.MeetsLong rest := by
  constructor
  · rintro ⟨front, position, behind, heq, hlong, hmet⟩
    cases front with
    | nil =>
        obtain ⟨rfl, rfl⟩ := List.cons.inj heq
        exact .inl hlong
    | cons t front =>
        obtain ⟨rfl, rfl⟩ := List.cons.inj heq
        rw [meetAll?] at hmet
        cases he : d.meet? s with
        | none => simp [he] at hmet
        | some e =>
            rw [he] at hmet
            exact .inr ⟨e, rfl, front, position, behind, rfl, hlong, hmet⟩
  · rintro (hlong | ⟨e, he, front, position, behind, rfl, hlong, hmet⟩)
    · exact ⟨[], s, rest, rfl, hlong, rfl⟩
    · exact ⟨s :: front, position, behind, rfl, hlong, by rw [meetAll?, he]; exact hmet⟩

/-- Steps without a position that is too long come to none. -/
theorem not_meetsLong {steps : List PathStep} (h : ∀ s ∈ steps, s.isLong = false) (d : Datum) : ¬ d.MeetsLong steps := by
  rintro ⟨front, position, rest, rfl, hlong, -⟩
  exact Bool.false_ne_true ((h position (by simp)).symm.trans hlong)

/-- Following steps comes to what they meet, or to a position that is too long. -/
theorem pursue?_cases (d : Datum) (steps : List PathStep) :
    (d.MeetsLong steps → d.pursue? steps = .error .notANumber) ∧
      (¬ d.MeetsLong steps → d.pursue? steps = .ok (d.meetAll? steps)) := by
  induction steps generalizing d with
  | nil =>
      refine ⟨?_, fun _ => rfl⟩
      rintro ⟨front, position, rest, heq, -⟩
      simp at heq
  | cons s rest ih =>
      rw [meetsLong_cons, pursue?, meetAll?]
      cases hlong : s.isLong with
      | true => exact ⟨fun _ => rfl, fun h => absurd (.inl rfl) h⟩
      | false =>
          simp only [Bool.false_eq_true, false_or, if_false]
          cases hmet : d.meet? s with
          | none => exact ⟨by simp, fun _ => rfl⟩
          | some e => simpa using ih e

end Datum

namespace DocumentPath

/-! ## Writing steps -/

/-- A position as it is written. -/
def bracketed (position : Nat) : List Char :=
  '[' :: (Nat.toDigits 10 position ++ [']'])

/-- Steps behind others: a point before each key. -/
def behind : List PathStep → List Char
  | [] => []
  | .key name :: rest => '.' :: (name.toList ++ behind rest)
  | .index position :: rest => bracketed position ++ behind rest

/-- Steps as a path: keys with points between, each position in brackets behind what precedes it. -/
def written : List PathStep → String
  | .key name :: rest => String.ofList (name.toList ++ behind rest)
  | steps => String.ofList (behind steps)

/-- A key, or nothing, with positions behind it. -/
def partText (key : String) (positions : List Nat) : List Char :=
  key.toList ++ positions.flatMap bracketed

/-- The steps of one part. -/
def partSteps (key : String) (positions : List Nat) : List PathStep :=
  (if key = "" then [] else [.key key]) ++ positions.map .index

/-! ## Reading one part -/

/-- Positions in brackets are read one by one. -/
theorem positions?_bracketed (positions : List Nat) {fuel : Nat} (h : positions.length < fuel) :
    positions? fuel (positions.flatMap bracketed) =
      some (positions.map fun position => String.ofList (Nat.toDigits 10 position)) := by
  induction positions generalizing fuel with
  | nil =>
      obtain ⟨fuel, rfl⟩ : ∃ k, fuel = k + 1 := ⟨fuel - 1, by omega⟩
      rfl
  | cons position positions ih =>
      rw [List.length_cons] at h
      obtain ⟨fuel, rfl⟩ : ∃ k, fuel = k + 1 := ⟨fuel - 1, by omega⟩
      have hdigits : ((Nat.toDigits 10 position ++ [']']) ++ positions.flatMap bracketed).takeWhile Text.isDecimal =
          Nat.toDigits 10 position := by
        rw [List.append_assoc, List.takeWhile_append_of_pos fun c hc =>
          Numeral.isDecimal_of_isDigit (Numeral.isDigit_of_mem_toDigits hc)]
        have hclose : Text.isDecimal ']' = false := by decide
        simp [hclose]
      have hrest : ((Nat.toDigits 10 position ++ [']']) ++ positions.flatMap bracketed).drop
          (Nat.toDigits 10 position).length = ']' :: positions.flatMap bracketed := by
        rw [List.append_assoc, List.drop_left]
        rfl
      have hne : (Nat.toDigits 10 position).isEmpty = false := by
        rw [List.isEmpty_eq_false_iff]
        exact List.ne_nil_of_length_pos Nat.length_toDigits_pos
      rw [List.flatMap_cons, bracketed, List.cons_append, positions?]
      · simp only [hdigits, hrest, hne, Bool.false_eq_true, if_false, ih (by omega : positions.length < fuel)]
        rfl

/-- A part is cut into its key and its positions. -/
theorem part?_partText {key : String} (hkey : ∀ c ∈ key.toList, isBracket c = false) (positions : List Nat) :
    part? (String.ofList (partText key positions)) =
      some (key, positions.map fun position => String.ofList (Nat.toDigits 10 position)) := by
  have hfront : (partText key positions).takeWhile (fun c => !isBracket c) = key.toList := by
    rw [partText, List.takeWhile_append_of_pos fun c hc => by simp [hkey c hc]]
    cases positions with
    | nil => simp
    | cons position positions => simp [bracketed, isBracket]
  have hback : (partText key positions).drop key.toList.length = positions.flatMap bracketed := by
    rw [partText, List.drop_left]
  have hlength : positions.length < (partText key positions).length + 1 := by
    have hbrackets : ∀ positions : List Nat, positions.length ≤ (positions.flatMap bracketed).length := by
      intro positions
      induction positions with
      | nil => exact Nat.le_refl 0
      | cons position positions ih =>
          rw [List.flatMap_cons, List.length_append, bracketed, List.length_cons, List.length_cons]
          omega
    have hpart := hbrackets positions
    rw [partText, List.length_append]
    omega
  simp only [part?, String.toList_ofList, String.length_ofList, hfront, hback, positions?_bracketed positions hlength,
    String.ofList_toList, Option.map_some]

/-- Positions are followed one by one. -/
theorem index?_eq (d : Datum) (positions : List Nat) :
    index? (some d) (positions.map fun position => String.ofList (Nat.toDigits 10 position)) =
      d.pursue? (positions.map .index) := by
  induction positions generalizing d with
  | nil => rfl
  | cons position positions ih =>
      rw [List.map_cons, List.map_cons, index?, Numeral.int?_toDigits, Datum.pursue?, PathStep.isLong]
      by_cases hlong : 10 ^ Numeral.maxDigits ≤ position
      · rw [if_neg (by omega), if_pos (by simpa using hlong)]
      · rw [if_pos (by omega), if_neg (by simpa using hlong)]
        cases d with
        | list xs =>
            simp only [Datum.meet?, Int.toNat_natCast]
            by_cases hpast : xs.length ≤ position
            · rw [if_pos hpast, List.getElem?_eq_none hpast]
            · have hhere : xs[position]? = some xs[position] := List.getElem?_eq_getElem (by omega)
              rw [if_neg hpast, hhere]
              exact ih _
        | _ => rfl

/-- One part is entered as its steps are followed, unless they lead to null. -/
theorem enter?_partText {key : String} (hkey : ∀ c ∈ key.toList, isBracket c = false) (d : Datum) (positions : List Nat) :
    enter? d (String.ofList (partText key positions)) =
      Datum.present? <$> d.pursue? (partSteps key positions) := by
  rw [enter?, part?_partText hkey]
  by_cases hempty : key = ""
  · have hblank : ("" : String).isEmpty = true := rfl
    simp only [hempty, hblank, partSteps, if_true, List.nil_append, index?_eq]
    rcases d.pursue? (positions.map .index) with f | _ | value
    · rfl
    · rfl
    · cases value <;> rfl
  · have hkeyed : key.isEmpty = false := by simpa using hempty
    rw [partSteps, if_neg hempty, List.singleton_append, Datum.pursue?]
    simp only [hkeyed, Bool.false_eq_true, if_false, PathStep.isLong, Datum.meet?]
    cases d with
    | map entries =>
        simp only [index?_eq]
        rcases ((Datum.map entries).get? key |>.getD .null).pursue? (positions.map .index) with f | _ | value
        · rfl
        · rfl
        · cases value <;> rfl
    | _ => rfl

/-! ## Reading a path -/

/-- The points of a path stand between its parts. -/
theorem point_not_mem_partText {key : String} (hkey : ∀ c ∈ key.toList, c ≠ '.') (positions : List Nat) :
    '.' ∉ partText key positions := by
  rw [partText, List.mem_append, List.mem_flatMap]
  rintro (h | ⟨position, -, h⟩)
  · exact hkey '.' h rfl
  · rw [bracketed, List.mem_cons, List.mem_append, List.mem_singleton] at h
    rcases h with h | h | h
    · exact absurd h (by decide)
    · exact absurd (Numeral.isDigit_of_mem_toDigits h) (by decide)
    · exact absurd h (by decide)

/-- A part with steps in it is not passed over. -/
theorem walk?_part {key : String} (hkey : ∀ c ∈ key.toList, isBracket c = false) {positions : List Nat}
    (hne : key ≠ "" ∨ positions ≠ []) (d : Datum) (rest : List String) :
    walk? d (String.ofList (partText key positions) :: rest) =
      (d.pursue? (partSteps key positions)).bind fun found =>
        (Datum.present? found).elim (.ok none) (walk? · rest) := by
  have hpart : (String.ofList (partText key positions)).isEmpty = false := by
    have htext : partText key positions ≠ [] := by
      rw [partText, Ne, List.append_eq_nil_iff, not_and_or]
      refine hne.imp (fun h => by simpa using h) fun h => ?_
      obtain ⟨position, positions, rfl⟩ := List.exists_cons_of_ne_nil h
      simp [bracketed]
    simpa using htext
  rw [walk?, hpart, if_neg Bool.false_ne_true, enter?_partText hkey]
  cases d.pursue? (partSteps key positions) with
  | error f => rfl
  | ok found =>
      simp only [bind, Except.bind, Functor.map, Except.map]
      cases Datum.present? found <;> rfl

/-- Steps behind a part that is read already: the whole is followed step by step. -/
theorem walk?_behind {steps : List PathStep} (hplain : ∀ s ∈ steps, s.IsPlain) (d : Datum) {key : String}
    (hkey : ∀ c ∈ key.toList, c ≠ '.' ∧ isBracket c = false) {positions : List Nat}
    (hne : key ≠ "" ∨ positions ≠ []) :
    walk? d ((Text.splitOn ['.'] (partText key positions ++ behind steps)).map String.ofList) =
      Datum.present? <$> d.pursue? (partSteps key positions ++ steps) := by
  have hpoint : ∀ positions, '.' ∉ partText key positions := point_not_mem_partText fun c hc => (hkey c hc).1
  induction steps generalizing d key positions with
  | nil =>
      rw [behind, List.append_nil, List.append_nil, Text.splitOn_of_not_mem (hpoint positions), List.map_singleton,
        walk?_part (fun c hc => (hkey c hc).2) hne]
      cases d.pursue? (partSteps key positions) with
      | error f => rfl
      | ok found =>
          simp only [Except.bind, Functor.map, Except.map]
          cases Datum.present? found <;> rfl
  | cons s steps ih =>
      have hrest : ∀ t ∈ steps, t.IsPlain := fun t ht => hplain t (List.mem_cons_of_mem s ht)
      cases s with
      | index position =>
          have htext : partText key positions ++ behind (.index position :: steps) =
              partText key (positions ++ [position]) ++ behind steps := by
            simp [partText, behind]
          have hsteps : partSteps key positions ++ .index position :: steps =
              partSteps key (positions ++ [position]) ++ steps := by
            simp [partSteps]
          rw [htext, hsteps]
          exact ih hrest d hkey (.inr (by simp)) hpoint
      | key name =>
          obtain ⟨hname, hchars⟩ := hplain (.key name) List.mem_cons_self
          have htext : partText key positions ++ behind (.key name :: steps) =
              partText key positions ++ '.' :: (partText name [] ++ behind steps) := by
            simp [partText, behind]
          have hsteps : PathStep.key name :: steps = partSteps name [] ++ steps := by
            simp [partSteps, hname]
          rw [htext, Text.splitOn_append, Text.splitOn_of_not_mem (hpoint positions), List.singleton_append, List.map_cons,
            walk?_part (fun c hc => (hkey c hc).2) hne, Datum.pursue?_append]
          rcases d.pursue? (partSteps key positions) with f | _ | value
          · rfl
          · rfl
          · cases hvalue : value.isNull with
            | true =>
                -- in null there is no key
                obtain rfl := Datum.eq_null_of_isNull hvalue
                rfl
            | false =>
                simp only [Except.bind, Datum.present?_some hvalue, Option.elim_some, hsteps]
                exact ih hrest value hchars (.inl hname) (point_not_mem_partText fun c hc => (hchars c hc).1)

/-- The parts of a path are walked as its steps are followed. -/
theorem walk?_written {steps : List PathStep} (hne : steps ≠ []) (hplain : ∀ s ∈ steps, s.IsPlain) (d : Datum) :
    walk? d (Text.split "." (written steps)) = Datum.present? <$> d.pursue? steps := by
  have hpoint : ".".toList = ['.'] := rfl
  obtain ⟨s, rest, rfl⟩ := List.exists_cons_of_ne_nil hne
  have hrest : ∀ t ∈ rest, t.IsPlain := fun t ht => hplain t (List.mem_cons_of_mem s ht)
  rw [Text.split, hpoint]
  cases s with
  | key name =>
      obtain ⟨hname, hchars⟩ := hplain (.key name) List.mem_cons_self
      have htext : (written (.key name :: rest)).toList = partText name [] ++ behind rest := by simp [written, partText]
      have hsteps : PathStep.key name :: rest = partSteps name [] ++ rest := by simp [partSteps, hname]
      rw [htext, hsteps]
      exact walk?_behind hrest d hchars (.inl hname)
  | index position =>
      have htext : (written (.index position :: rest)).toList = partText "" [position] ++ behind rest := by
        simp [written, partText, behind]
      rw [htext]
      exact walk?_behind hrest d (by simp) (.inr (by simp))

/-- A path is walked part by part, unless it names the whole document. -/
theorem resolve?_eq_walk? {path : String} (hedges : Text.strip path = path) (hne : path ≠ "") (hroot : path ≠ "$")
    (hfront : Text.startsWith path "$." = false) {document : Datum} (hdocument : document.isNull = false) :
    resolve? document path = walk? document (Text.split "." path) := by
  have hwhole : (path.isEmpty || path == "$") = false := by simp [hne, hroot]
  simp only [resolve?, hedges, hdocument, hwhole, relative, hfront, Bool.false_eq_true, if_false]

/-- The mark of the whole document in front of a path changes nothing. -/
theorem resolve?_root {path : String} (hedges : Text.strip path = path) (hne : path ≠ "") (hroot : path ≠ "$")
    (hfront : Text.startsWith path "$." = false) (document : Datum) :
    resolve? document ("$." ++ path) = resolve? document path := by
  have htext : ("$." ++ path).toList = '$' :: '.' :: path.toList := by simp
  have htrimmed : Text.trimWhile Text.isBlank path.toList = path.toList := by
    rw [← String.toList_inj, Text.strip, String.toList_ofList] at hedges
    exact hedges
  have hmarked : Text.strip ("$." ++ path) = "$." ++ path := by
    have hedge : Text.trimWhile Text.isBlank ("$." ++ path).toList = ("$." ++ path).toList := by
      refine Text.trimWhile_of_edges (fun c hc => ?_) fun c hc => ?_
      · rw [htext, List.head?_cons] at hc
        obtain rfl := Option.some.inj hc
        decide
      · obtain ⟨a, s, hs⟩ := List.exists_cons_of_ne_nil (mt String.toList_eq_nil_iff.mp hne)
        rw [htext, hs, List.getLast?_cons_cons, List.getLast?_cons_cons, ← hs, ← htrimmed] at hc
        exact Text.getLast?_trimWhile hc
    rw [Text.strip, hedge, String.ofList_toList]
  have hwhole : (("$." ++ path).isEmpty || "$." ++ path == "$") = false := by
    have hlength : 2 ≤ ("$." ++ path).length := by rw [← String.length_toList, htext]; simp
    have hempty : "$." ++ path ≠ "" := by
      intro h
      rw [h] at hlength
      exact absurd hlength (by decide)
    have hmark : "$." ++ path ≠ "$" := by
      intro h
      rw [h] at hlength
      exact absurd hlength (by decide)
    simp [hempty, hmark]
  have hrelative : relative ("$." ++ path) = path := by
    have hbegins : Text.startsWith ("$." ++ path) "$." = true := by
      rw [Text.startsWith, Text.begins, String.toList_append, Text.after?_append]
      rfl
    rw [relative, if_pos hbegins, Text.drop, htext]
    exact String.ofList_toList
  cases hdocument : document.isNull with
  | true => simp only [resolve?, hdocument, if_true]
  | false =>
      rw [resolve?_eq_walk? hedges hne hroot hfront hdocument]
      simp only [resolve?, hmarked, hdocument, hwhole, hrelative, Bool.false_eq_true, if_false]

/-- A path with steps in it is not empty. -/
theorem written_ne_empty {steps : List PathStep} (hne : steps ≠ []) (hplain : ∀ s ∈ steps, s.IsPlain) :
    written steps ≠ "" := by
  obtain ⟨s, rest, rfl⟩ := List.exists_cons_of_ne_nil hne
  cases s with
  | key name =>
      obtain ⟨hname, -⟩ := hplain (.key name) List.mem_cons_self
      simp [written, hname]
  | index position => simp [written, behind, bracketed]

/-- **A path means its steps.**  It may be marked as beginning at the whole document or not.  It leads where its steps lead
when they are followed one by one, unless these come to a position that is too long to be read: then it is a fault. -/
theorem resolve?_written {steps : List PathStep} (hne : steps ≠ []) (hplain : ∀ s ∈ steps, s.IsPlain)
    (hedges : Text.strip (written steps) = written steps) (hroot : written steps ≠ "$")
    (hfront : Text.startsWith (written steps) "$." = false) (document : Datum) :
    resolve? document ("$." ++ written steps) = resolve? document (written steps) ∧
    (document.isNull = true ∨ ¬ document.MeetsLong steps →
      resolve? document (written steps) = .ok (document.follow? steps)) ∧
    (document.isNull = false ∧ document.MeetsLong steps →
      resolve? document (written steps) = .error .notANumber) := by
  refine ⟨resolve?_root hedges (written_ne_empty hne hplain) hroot hfront document, fun h => ?_, fun h => ?_⟩
  · cases hdocument : document.isNull with
    | true =>
        obtain rfl := Datum.eq_null_of_isNull hdocument
        obtain ⟨s, rest, rfl⟩ := List.exists_cons_of_ne_nil hne
        rw [Datum.follow?, Datum.step?_eq, Datum.meet?_null]
        rfl
    | false =>
        have hshort : ¬ document.MeetsLong steps := h.resolve_left (by simp [hdocument])
        rw [resolve?_eq_walk? hedges (written_ne_empty hne hplain) hroot hfront hdocument, walk?_written hne hplain,
          (document.pursue?_cases steps).2 hshort, Datum.follow?_eq hdocument]
        rfl
  · rw [resolve?_eq_walk? hedges (written_ne_empty hne hplain) hroot hfront h.1, walk?_written hne hplain,
      (document.pursue?_cases steps).1 h.2]
    rfl

/-! ## Two paths -/

/-- A document with a list of two items, the second without a size. -/
def listing : Datum :=
  .object [("data", .list [.object [("name", .text "Sintel")], .object [("name", .text "Cosmos"), ("size", .null)]])]

/-- The name of the second item is found by its path. -/
theorem resolve?_written_name :
    written [.key "data", .index 1, .key "name"] = "data[1].name" ∧
    resolve? listing "$.data[1].name" = resolve? listing "data[1].name" ∧
    resolve? listing "data[1].name" = .ok (listing.follow? [.key "data", .index 1, .key "name"]) ∧
    listing.follow? [.key "data", .index 1, .key "name"] = some (.text "Cosmos") := by
  have hwritten : written [.key "data", .index 1, .key "name"] = "data[1].name" := by decide
  have hplain : ∀ s ∈ [PathStep.key "data", .index 1, .key "name"], s.IsPlain := by
    simp [PathStep.IsPlain, isBracket]
  have hshort : ¬ listing.MeetsLong [.key "data", .index 1, .key "name"] := by
    refine Datum.not_meetsLong (fun s hs => ?_) listing
    have hfew : 1 < 10 ^ Numeral.maxDigits := Nat.one_lt_pow (by decide) (by decide)
    simp only [List.mem_cons, List.not_mem_nil, or_false] at hs
    rcases hs with rfl | rfl | rfl
    · rfl
    · simpa [PathStep.isLong] using hfew
    · rfl
  obtain ⟨hmarked, hfollowed, -⟩ := resolve?_written (by simp) hplain (by rw [hwritten]; decide)
    (by rw [hwritten]; decide) (by rw [hwritten]; decide) listing
  rw [hwritten] at hmarked hfollowed
  exact ⟨hwritten, hmarked, hfollowed (.inr hshort), by rfl⟩

/-- A position that is too long is read before the document is looked at. -/
theorem resolve?_of_isLong {position : Nat} (h : (PathStep.index position).isLong = true) {document : Datum}
    (hdocument : document.isNull = false) : resolve? document (written [.index position]) = .error .notANumber := by
  have htext : (written [.index position]).toList = '[' :: (Nat.toDigits 10 position ++ [']']) := by
    simp [written, behind, bracketed]
  have hedges : Text.strip (written [.index position]) = written [.index position] := by
    have hedge : Text.trimWhile Text.isBlank (written [.index position]).toList = (written [.index position]).toList := by
      refine Text.trimWhile_of_edges (fun c hc => ?_) fun c hc => ?_
      · rw [htext, List.head?_cons] at hc
        obtain rfl := Option.some.inj hc
        decide
      · rw [htext, List.getLast?_cons, List.getLast?_append] at hc
        obtain rfl : ']' = c := by simpa using hc
        decide
    rw [Text.strip, hedge, String.ofList_toList]
  have hne : written [.index position] ≠ "" := written_ne_empty (by simp) (by simp [PathStep.IsPlain])
  have hroot : written [.index position] ≠ "$" := by
    intro heq
    rw [heq] at htext
    exact absurd (List.cons.inj htext).1 (by decide)
  have hfront : Text.startsWith (written [.index position]) "$." = false := by
    rw [Text.startsWith, htext]
    rfl
  rw [resolve?_eq_walk? hedges hne hroot hfront hdocument, walk?_written (by simp) (by simp [PathStep.IsPlain]),
    Datum.pursue?, if_pos h]
  rfl

/-- A position with 4301 digits is past the end of a list of one item, and its path is a fault. -/
theorem resolve?_position_past_all :
    (Datum.list [.int 1]).follow? [.index (10 ^ Numeral.maxDigits)] = none ∧
    resolve? (.list [.int 1]) (written [.index (10 ^ Numeral.maxDigits)]) = .error .notANumber := by
  have hmany : ∀ position, 10 ^ Numeral.maxDigits ≤ position →
      (Datum.list [.int 1]).follow? [.index position] = none ∧
      resolve? (.list [.int 1]) (written [.index position]) = .error .notANumber := by
    intro position h
    have hpos : 0 < 10 ^ Numeral.maxDigits := Nat.pow_pos (by decide)
    have hpast : ([.int 1] : List Datum)[position]? = none := List.getElem?_eq_none (by rw [List.length_singleton]; omega)
    have hlong : (PathStep.index position).isLong = true := by simpa [PathStep.isLong] using h
    refine ⟨?_, resolve?_of_isLong hlong rfl⟩
    simp only [Datum.follow?, Datum.step?, hpast, Option.bind_none]
  have hleast := hmany (10 ^ Numeral.maxDigits)
  exact hleast (Nat.le_refl _)

end DocumentPath

end MetaSearch
