import MetaSearch.Template.Action

/-!
# Evaluating templates

A template is rewritten until it stays the same: in each pass every if-block without another one inside is
replaced by the branch that its condition chooses, and then every action by its text. Text that stands for a
value is held apart: its braces are kept as two private characters until the end, so that no later pass reads
them as a template.
-/

namespace MetaSearch.Template

/-- The greatest number of passes. -/
def maxPasses : Nat := 50

/-- The character kept for an opening brace. -/
def heldOpen : Char := '\uE000'

/-- The character kept for a closing brace. -/
def heldClose : Char := '\uE001'

/-- A character of a value as it is kept. -/
def hold (c : Char) : Char :=
  if c == '\x7b' then heldOpen else if c == '\x7d' then heldClose else c

/-- A kept character as it is put out. -/
def release (c : Char) : Char :=
  if c == heldOpen then '\x7b' else if c == heldClose then '\x7d' else c

/-- Whether a character is a brace. -/
def isBrace (c : Char) : Bool := c == '\x7b' || c == '\x7d'

/-- The inside of the double braces at the front of a text, which holds no brace, and what follows them. -/
def braced? : List Char → Option (List Char × List Char)
  | '\x7b' :: '\x7b' :: s =>
    let inner := s.takeWhile (!isBrace ·)
    match s.drop inner.length with
    | '\x7d' :: '\x7d' :: rest => some (inner, rest)
    | _ => none
  | _ => none

/-- The inside of double braces without a hyphen in front and the blanks after it. -/
def openTrimmed (inner : List Char) : List Char :=
  (match inner with
    | '-' :: s => s
    | s => s).dropWhile Text.isBlank

/-- A text without a hyphen at its end and the blanks before it. -/
def closeTrimmed (s : List Char) : List Char :=
  Text.dropEndWhile Text.isBlank (if s.getLast? == some '-' then s.dropLast else s)

/-- What double braces hold without hyphens and blanks at either end. -/
def trimmed (inner : List Char) : List Char :=
  closeTrimmed (openTrimmed inner)

/-- What follows a keyword in double braces at the front of a text. -/
def keyword? (word : String) (s : List Char) : Option (List Char) :=
  (braced? s).bind fun (inner, rest) =>
    match Text.after? word.toList (openTrimmed inner) with
    | some tail => if closeTrimmed tail == [] then some rest else none
    | none => none

/-- Whether an if-block seems to open at the front of a text. -/
def opensIf : List Char → Bool
  | '\x7b' :: '\x7b' :: s =>
    match Text.after? ['i', 'f'] (openTrimmed s) with
    | some (c :: _) => Text.isBlank c
    | _ => false
  | _ => false

/-- The condition of the if-block that opens at the front of a text and what follows its opening. -/
def ifOpening? (s : List Char) : Option (List Char × List Char) :=
  (braced? s).bind fun (inner, rest) =>
    match Text.after? ['i', 'f'] (openTrimmed inner) with
    | some tail =>
      let blanks := tail.takeWhile Text.isBlank
      let body := tail.drop blanks.length
      let cond := closeTrimmed body
      if blanks.isEmpty then none
      else if !cond.isEmpty then some (cond, rest)
      else if !body.isEmpty then some (body, rest)
      else if 1 < blanks.length then some (blanks.drop (blanks.length - 1), rest)
      else none
    | none => none

/-- The text up to the end of the if-block and what follows it; nothing where another if-block opens
before. -/
def untilEnd : List Char → Option (List Char × List Char)
  | [] => none
  | c :: s =>
    match keyword? "end" (c :: s) with
    | some rest => some ([], rest)
    | none =>
      if opensIf (c :: s) then none
      else (untilEnd s).map fun (body, rest) => (c :: body, rest)

/-- The two branches of an if-block whose opening is passed, and what follows it. -/
def branches : List Char → Option (List Char × List Char × List Char)
  | [] => none
  | c :: s =>
    match (keyword? "else" (c :: s)).bind untilEnd with
    | some (otherwise, rest) => some ([], otherwise, rest)
    | none =>
      match keyword? "end" (c :: s) with
      | some rest => some ([], [], rest)
      | none =>
        if opensIf (c :: s) then none
        else (branches s).map fun (first, otherwise, rest) => (c :: first, otherwise, rest)

/-- The innermost if-block at the front of a text: its condition, its branches and what follows it. -/
def ifBlock? (s : List Char) : Option (List Char × List Char × List Char × List Char) := do
  let (cond, rest) ← ifOpening? s
  let (first, otherwise, rest) ← branches rest
  some (cond, first, otherwise, rest)

/-- The text with every innermost if-block replaced by the chosen branch; a block whose condition has an
unsupported form stays. `skip` counts the characters still to pass of the last block. -/
def resolveConditionals (env : Environment) (skip : Nat) : List Char → List Char
  | [] => []
  | c :: s =>
    match skip with
    | skip + 1 => resolveConditionals env skip s
    | 0 =>
      match ifBlock? (c :: s) with
      | none => c :: resolveConditionals env 0 s
      | some (cond, first, otherwise, rest) =>
        let length := s.length - rest.length
        let image := match condition? env cond with
          | none => (c :: s).take (length + 1)
          | some b => if b then first else otherwise
        image ++ resolveConditionals env length s

/-- The text with every action replaced by its text, encoded and held; an action of an unsupported form stays.
`skip` counts the characters still to pass of the last action. -/
def resolveActions (env : Environment) (encode : String → String) (skip : Nat) : List Char → List Char
  | [] => []
  | c :: s =>
    match skip with
    | skip + 1 => resolveActions env encode skip s
    | 0 =>
      match braced? (c :: s) with
      | none => c :: resolveActions env encode 0 s
      | some (inner, _) =>
        let image := match action? env (trimmed inner) with
          | none => (c :: s).take (inner.length + 4)
          | some text => (encode text).toList.map hold
        image ++ resolveActions env encode (inner.length + 3) s

/-- One pass over a template. -/
def rewrite (env : Environment) (encode : String → String) (s : List Char) : List Char :=
  resolveActions env encode 0 (resolveConditionals env 0 s)

/-- Passes over a template until it stays the same, at most `n` of them. -/
def settle (env : Environment) (encode : String → String) : (n : Nat) → List Char → List Char
  | 0, s => s
  | n + 1, s =>
    let next := rewrite env encode s
    if next = s then next else settle env encode n next

/-- The text of a template in an environment, each value encoded. -/
def evaluate (env : Environment) (template : String) (encode : String → String := id) : String :=
  if Text.contains template "\x7b\x7b" then
    String.ofList ((settle env encode maxPasses template.toList).map release)
  else template

end MetaSearch.Template
