import MetaSearch.Pattern.Syntax

/-!
# Matching patterns

A match walks through a text by backtracking: each node hands every way in which it can go on to the rest of
the match, in order of preference. The number of steps between two characters is bounded by the size of the
pattern, since a repetition does not go round again without having moved, so the bound that `run` counts down
is never reached.
-/

namespace MetaSearch.Pattern

/-- Where each group matched, first and past-last position, by group number from 1. -/
abbrev Captures := Array (Option (Nat × Nat))

/-- Whether a character counts as part of a word. -/
def isWord (ascii : Bool) (c : Char) : Bool := Category.word.contains ascii c

/-- Whether an anchor holds at a position of a text. -/
def Anchor.holds (ascii : Bool) (text : Array Char) (i : Nat) : Anchor → Bool
  | .start => i == 0
  | .textFinish => i == text.size
  | .finish => i == text.size || (i + 1 == text.size && text[i]? == some '\n')
  | .lineStart => i == 0 || text[i - 1]? == some '\n'
  | .lineFinish => i == text.size || text[i]? == some '\n'
  | .edge => edge
  | .noEdge => text.size != 0 && !edge
where
  wordAt (j : Nat) : Bool := (text[j]?.map (isWord ascii)).getD false
  edge : Bool := text.size != 0 && ((i != 0 && wordAt (i - 1)) != wordAt i)

/-- The text between two positions. -/
def slice (text : Array Char) (span : Nat × Nat) : List Char :=
  (text.toList.drop span.1).take (span.2 - span.1)

/-- Whether two texts agree, without case where the options say so. -/
def agree (o : Options) (a b : Char) : Bool :=
  if o.caseless then
    if o.ascii then a.toLower == b.toLower else Text.lowerChar a == Text.lowerChar b
  else a == b

/-- Whether the characters stand in the text from a position on. -/
def standsAt (o : Options) (text : Array Char) : Nat → List Char → Bool
  | _, [] => true
  | i, c :: cs => (text[i]?.map (agree o c)).getD false && standsAt o text (i + 1) cs

mutual

/-- Matches a node at a position and goes on with `k`; `fuel` bounds the depth. -/
def run {α : Type} (text : Array Char) : (fuel : Nat) → Node → Nat → Captures →
    (Nat → Captures → Option α) → Option α
  | 0, _, _, _, _ => none
  | fuel + 1, node, i, caps, k =>
    match node with
    | .empty => k i caps
    | .fail => none
    | .class o negated items =>
      match text[i]? with
      | some c => if items.any (·.contains o c) != negated then k (i + 1) caps else none
      | none => none
    | .any dotAll =>
      match text[i]? with
      | some c => if dotAll || c != '\n' then k (i + 1) caps else none
      | none => none
    | .anchor ascii a => if a.holds ascii text i then k i caps else none
    | .seq a b => run text fuel a i caps fun j caps => run text fuel b j caps k
    | .alt a b =>
      match run text fuel a i caps k with
      | some r => some r
      | none => run text fuel b i caps k
    | .repeat min max mood body =>
      match mood with
      | .possessive =>
        match loop text fuel min max .greedy body none i caps (fun j caps => some (j, caps)) with
        | some (j, caps) => k j caps
        | none => none
      | mood => loop text fuel min max mood body none i caps k
    | .group index body =>
      run text fuel body i caps fun j caps => k j (caps.setIfInBounds index (some (i, j)))
    | .reference o index =>
      match caps[index]? with
      | some (some span) =>
        let cs := slice text span
        if standsAt o text i cs then k (i + cs.length) caps else none
      | _ => none
    | .look ahead negated width body =>
      let found : Option (Nat × Captures) :=
        if ahead then run text fuel body i caps fun j caps => some (j, caps)
        else if width ≤ i then
          run text fuel body (i - width) caps fun j caps => if j = i then some (j, caps) else none
        else none
      match found with
      | some (_, inner) => if negated then none else k i inner
      | none => if negated then k i caps else none
    | .atomic body =>
      match run text fuel body i caps fun j caps => some (j, caps) with
      | some (j, caps) => k j caps
      | none => none
    | .condition index yes no =>
      match caps[index]? with
      | some (some _) => run text fuel yes i caps k
      | _ => run text fuel no i caps k

/-- Goes round a repetition with `min` rounds owed and at most `max` allowed; `last` is where the last free
round began, and a further free round must begin elsewhere. -/
def loop {α : Type} (text : Array Char) : (fuel : Nat) → (min : Nat) → (max : Option Nat) → Mood → Node →
    (last : Option Nat) → Nat → Captures → (Nat → Captures → Option α) → Option α
  | 0, _, _, _, _, _, _, _, _ => none
  | fuel + 1, min, max, mood, body, last, i, caps, k =>
    let fewer := max.map (· - 1)
    match min with
    | min + 1 =>
      run text fuel body i caps fun j caps => loop text fuel min fewer mood body last j caps k
    | 0 =>
      let round : Unit → Option α := fun _ =>
        if max == some 0 || last == some i then none
        else
          run text fuel body i caps fun j caps => loop text fuel 0 fewer mood body (some i) j caps k
      match mood with
      | .lazy =>
        match k i caps with
        | some r => some r
        | none => round ()
      | _ =>
        match round () with
        | some r => some r
        | none => k i caps

end

/-- A match: where it begins and ends, and its groups. -/
structure Match where
  start : Nat
  stop : Nat
  groups : Captures
  deriving Repr

/-- A bound on the depth of a match in a text. -/
def Program.depth (p : Program) (text : Array Char) : Nat :=
  (text.size + 2) * (4 * p.root.size + 4) + 16

/-- The match that begins at a position; `moving` demands that it takes at least one character. -/
def Program.matchAt? (p : Program) (text : Array Char) (moving : Bool) (i : Nat) : Option Match :=
  run text (p.depth text) p.root i (Array.replicate (p.groups + 1) none) fun j caps =>
    if moving && j == i then none else some ⟨i, j, caps⟩

/-- The first match from a position on, of `count` positions to try. -/
def Program.searchFrom (p : Program) (text : Array Char) (moving : Bool) : (count : Nat) → Nat → Option Match
  | 0, _ => none
  | count + 1, i =>
    match p.matchAt? text moving i with
    | some m => some m
    | none => p.searchFrom text false count (i + 1)

/-- The first match in a text. -/
def Program.search? (p : Program) (text : Array Char) : Option Match :=
  p.searchFrom text false (text.size + 1) 0

/-- All matches in a text from left to right. After an empty match the next one must begin later or take a
character. -/
def Program.matches (p : Program) (text : Array Char) : List Match :=
  go (2 * text.size + 2) false 0
where
  go : Nat → Bool → Nat → List Match
    | 0, _, _ => []
    | fuel + 1, moving, i =>
      match p.searchFrom text moving (text.size + 1 - i) i with
      | none => []
      | some m => m :: go fuel (m.stop == m.start) m.stop

/-- The text of a group of a match; empty where the group did not take part. Group 0 is the whole match. -/
def Match.group (text : Array Char) (m : Match) (index : Nat) : String :=
  if index = 0 then String.ofList (slice text (m.start, m.stop))
  else
    match m.groups[index]? with
    | some (some span) => String.ofList (slice text span)
    | _ => ""

/-- Whether a group took part in a match. -/
def Match.tookPart (m : Match) (index : Nat) : Bool :=
  match m.groups[index]? with
  | some (some _) => true
  | _ => false

/-- The text with every match replaced by what `image` makes of it. -/
def Program.replaceAll (p : Program) (text : String) (image : Array Char → Match → String) : String :=
  let cs := text.toList.toArray
  let rec go (i : Nat) : List Match → String
    | [] => String.ofList (slice cs (i, cs.size))
    | m :: ms => String.ofList (slice cs (i, m.start)) ++ image cs m ++ go m.stop ms
  go 0 (p.matches cs)

end MetaSearch.Pattern
