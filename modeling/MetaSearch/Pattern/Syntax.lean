import MetaSearch.Text.Blank
import MetaSearch.Text.Letter

/-!
# Patterns

The structure of a text pattern: characters and classes, sequence and choice, repetition in three moods,
groups, references to groups, conditions, looking ahead and behind, and anchors. Options such as caselessness
are resolved when a pattern is read and stand in the nodes they concern.
-/

namespace MetaSearch.Pattern

/-- A class of characters named by an escape. -/
inductive Category where
  | digit | space | word
  deriving DecidableEq, Repr

/-- Whether a character belongs to a named class; `ascii` confines the class to ASCII. -/
def Category.contains (ascii : Bool) (k : Category) (c : Char) : Bool :=
  if ascii then
    match k with
    | .digit => c.isDigit
    | .space => c == ' ' || (9 ≤ c.toNat && c.toNat ≤ 13)
    | .word => c.isAlphanum || c == '_'
  else
    match k with
    | .digit => Text.isDecimal c
    | .space => Text.isBlank c
    | .word => Text.isWordChar c

/-- An item of a character class. -/
inductive ClassItem where
  | single (c : Char)
  | range (low high : Char)
  | category (negated : Bool) (k : Category)
  deriving DecidableEq, Repr

/-- Options that hold for a part of a pattern. -/
structure Options where
  caseless : Bool := false
  multiline : Bool := false
  dotAll : Bool := false
  verbose : Bool := false
  ascii : Bool := false
  deriving DecidableEq, Repr

/-- Whether an item of a class holds a character. Caseless, an item also holds the characters that differ from
one of its own in case alone. -/
def ClassItem.contains (o : Options) (item : ClassItem) (c : Char) : Bool :=
  match item with
  | .single a =>
    if o.caseless then
      if o.ascii then a.toLower == c.toLower else Text.sameLetter a c
    else a == c
  | .range low high =>
    let inside (x : Char) : Bool := low ≤ x && x ≤ high
    if o.caseless then
      if o.ascii then inside c.toLower || inside c.toUpper || inside c
      else
        inside c || (Text.caselessClass c).any fun x => inside x || inside (Text.upperChar x)
    else inside c
  | .category negated k => k.contains o.ascii c != negated

/-- A place in a text that takes no characters. -/
inductive Anchor where
  | start | finish | lineStart | lineFinish | textFinish | edge | noEdge
  deriving DecidableEq, Repr

/-- How a repetition chooses its number: as many as possible, as few as possible, or as many as possible for
good. -/
inductive Mood where
  | greedy | lazy | possessive
  deriving DecidableEq, Repr

/-- The structure of a pattern. -/
inductive Node where
  | empty
  | fail
  | class (o : Options) (negated : Bool) (items : List ClassItem)
  | any (dotAll : Bool)
  | anchor (ascii : Bool) (a : Anchor)
  | seq (a b : Node)
  | alt (a b : Node)
  | repeat (min : Nat) (max : Option Nat) (mood : Mood) (body : Node)
  | group (index : Nat) (body : Node)
  | reference (o : Options) (index : Nat)
  | look (ahead negated : Bool) (width : Nat) (body : Node)
  | atomic (body : Node)
  | condition (index : Nat) (yes no : Node)
  deriving Repr, Inhabited

namespace Node

/-- The least and the greatest number of characters that a node takes; no greatest where there is none.
References count as taking anything. -/
def width : Node → Nat × Option Nat
  | empty | fail | anchor .. | look .. => (0, some 0)
  | .class .. | any _ => (1, some 1)
  | seq a b =>
    let (lo, hi) := a.width
    let (lo', hi') := b.width
    (lo + lo', do some ((← hi) + (← hi')))
  | alt a b =>
    let (lo, hi) := a.width
    let (lo', hi') := b.width
    (Nat.min lo lo', do some (Nat.max (← hi) (← hi')))
  | .repeat min max _ body =>
    let (lo, hi) := body.width
    (lo * min, match hi, max with
      | some 0, _ => some 0
      | some h, some m => some (h * m)
      | _, _ => none)
  | group _ body | atomic body => body.width
  | reference .. => (0, none)
  | condition _ yes no =>
    let (lo, hi) := yes.width
    let (lo', hi') := no.width
    (Nat.min lo lo', do some (Nat.max (← hi) (← hi')))

/-- A bound on the steps a match spends on a node between two characters. -/
def size : Node → Nat
  | seq a b | alt a b | condition _ a b => a.size + b.size + 1
  | .repeat min _ _ body => (min + 2) * (body.size + 1) + 1
  | group _ body | atomic body | look _ _ _ body => body.size + 1
  | _ => 1

end Node

/-- A pattern: its structure, the number of its groups and the names of some of them. -/
structure Program where
  root : Node
  groups : Nat
  names : List (String × Nat)
  deriving Repr, Inhabited

end MetaSearch.Pattern
