import MetaSearch.Pattern.Matching
import MetaSearch.Pattern.Reader

/-!
# Replacements

What a match is replaced by is written with dollars: `$1` and `${name}` for a group, `$$` for a dollar, all
else for itself. The dollar form is turned into the form with backslashes, `\g<name>` for a group and `\\` for
a backslash, which is then read into literal characters and references.
-/

namespace MetaSearch.Pattern

/-- What stands at a dollar: a doubled dollar, or the name of a group, and the number of characters after the
dollar that belong to it. -/
inductive Dollar where
  | dollar
  | group (name : List Char) (length : Nat)

/-- What the text after a dollar makes of it; nothing where the dollar stands for itself. -/
def dollarAt? : List Char → Option Dollar
  | '$' :: _ => some .dollar
  | '\x7b' :: s =>
    let name := s.takeWhile Text.isWordChar
    match s.drop name.length with
    | '\x7d' :: _ => if name.isEmpty then none else some (.group name (name.length + 2))
    | _ => none
  | s =>
    let name := s.takeWhile Text.isDecimal
    if name.isEmpty then none else some (.group name name.length)

/-- The form with backslashes of a text in which every backslash is doubled already; `skip` counts the
characters still to pass of the last reference. -/
def fromDollarsFrom (skip : Nat) : List Char → List Char
  | [] => []
  | c :: s =>
    match skip with
    | skip + 1 => fromDollarsFrom skip s
    | 0 =>
      if c == '$' then
        match dollarAt? s with
        | some .dollar => '$' :: fromDollarsFrom 1 s
        | some (.group name n) => '\\' :: 'g' :: '<' :: (name ++ '>' :: fromDollarsFrom n s)
        | none => '$' :: fromDollarsFrom 0 s
      else c :: fromDollarsFrom 0 s

/-- A text with every backslash doubled. -/
def doubleBackslashes (s : List Char) : List Char :=
  s.flatMap fun c => if c == '\\' then ['\\', '\\'] else [c]

/-- The form with backslashes of a replacement in the form with dollars. -/
def fromDollars (replacement : List Char) : List Char :=
  fromDollarsFrom 0 (doubleBackslashes replacement)

/-- A piece of a replacement: a character, or the group with a number or a name. -/
inductive Piece where
  | literal (c : Char)
  | group (name : String)
  deriving DecidableEq, Repr

/-- The name in angle brackets at the front of a text. -/
def bracketed? : List Char → Option (List Char)
  | '<' :: s =>
    let name := s.takeWhile (· != '>')
    if name.isEmpty || (s.drop name.length).isEmpty then none else some name
  | _ => none

/-- The pieces of a replacement in the form with backslashes; nothing where a backslash begins neither a group
nor a doubled backslash. `skip` counts the characters still to pass. -/
def piecesFrom? (skip : Nat) : List Char → Option (List Piece)
  | [] => some []
  | c :: s =>
    match skip with
    | skip + 1 => piecesFrom? skip s
    | 0 =>
      if c == '\\' then
        match s with
        | '\\' :: _ => (piecesFrom? 1 s).map (.literal '\\' :: ·)
        | 'g' :: r =>
          match bracketed? r with
          | some name => (piecesFrom? (name.length + 3) s).map (.group (String.ofList name) :: ·)
          | none => none
        | _ => none
      else (piecesFrom? 0 s).map (.literal c :: ·)

/-- The pieces of a replacement in the form with backslashes. -/
def pieces? (replacement : List Char) : Option (List Piece) :=
  piecesFrom? 0 replacement

/-- The number of the group with a number or name, where the pattern has it. -/
def Program.groupNumber? (p : Program) (name : String) : Option Nat :=
  if isGroupName name then (p.names.find? (·.1 == name)).map (·.2)
  else
    match Numeral.int? name with
    | some (.ofNat n) => if n ≤ p.groups then some n else none
    | _ => none

/-- A piece with its group found. -/
def Program.resolve? (p : Program) : Piece → Option (Char ⊕ Nat)
  | .literal c => some (.inl c)
  | .group name => (p.groupNumber? name).map .inr

/-- What a match is replaced by. -/
def expand (pieces : List (Char ⊕ Nat)) (text : Array Char) (m : Match) : String :=
  String.join (pieces.map fun
    | .inl c => String.singleton c
    | .inr n => m.group text n)

/-- The text with every match of a pattern replaced; nothing where the replacement refers to a group that the
pattern does not have. -/
def Program.substitute? (p : Program) (replacement text : String) : Option String := do
  let pieces ← pieces? (fromDollars replacement.toList)
  let resolved ← pieces.mapM p.resolve?
  some (p.replaceAll text (expand resolved))

end MetaSearch.Pattern
