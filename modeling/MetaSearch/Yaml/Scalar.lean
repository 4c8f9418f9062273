import MetaSearch.Yaml.Name

/-!
# Texts of scalars

Scalars are plain, in quotes, or written as a block of lines. Lines of plain and quoted scalars are folded: a
single line break is a space, more of them are all breaks but one.
-/

namespace MetaSearch.Yaml

/-- What a line break and the empty lines after it become when lines are folded. -/
def folded (lineBreak breaks : List Char) : List Char :=
  (if lineBreak != ['\n'] then lineBreak else if breaks.isEmpty then [' '] else []) ++ breaks

/-- The characters that a backslash and a letter stand for. -/
def escapes : List (Char × Char) :=
  [('0', '\x00'), ('a', '\x07'), ('b', '\x08'), ('t', '\t'), ('\t', '\t'), ('n', '\n'), ('v', '\x0b'),
   ('f', '\x0c'), ('r', '\r'), ('e', '\x1b'), (' ', ' '), ('"', '"'), ('\\', '\\'), ('/', '/'),
   ('N', '\x85'), ('_', '\xa0'), ('L', '\u2028'), ('P', '\u2029')]

/-- The letters before hexadecimal codes, with their numbers of digits. -/
def codeEscapes : List (Char × Nat) := [('x', 2), ('u', 4), ('U', 8)]

namespace Cursor

/-- The line breaks in front of the cursor inside quotes, blanks around them passed over, and the place behind
them; nothing where a new document begins. -/
def quotedBreaks? : (fuel : Nat) → Cursor → Option (List Char × Cursor)
  | 0, c => some ([], c)
  | fuel + 1, c =>
    if c.partsDocuments then none
    else
      let c := c.skip fun a => a == ' ' || a == '\t'
      if isBreak c.next then do
        let (found, c) := c.lineBreak
        let (more, c) ← quotedBreaks? fuel c
        return (found ++ more, c)
      else some ([], c)

/-- The character that an escape behind its backslash stands for, none for an escaped line break, and the place
behind it. -/
def escape (c : Cursor) : Except Unread (List Char × Cursor) :=
  match List.lookup c.next escapes, List.lookup c.next codeEscapes with
  | some image, _ => .ok ([image], c.advance)
  | none, some count => do
    let digits ← orMalformed ((c.advance.rest.take count).mapM Json.hexValue?)
    let code := digits.foldl (fun n d => 16 * n + d) 0
    if digits.length < count then throw .malformed
    -- no character has such a code
    else if 0x10FFFF < code then throw (.fault .notANumber)
    else return ([Char.ofNat code], c.forward (count + 1))
  | none, none =>
    if isBreak c.next then orMalformed (quotedBreaks? (c.rest.length + 1) c.lineBreak.2) else .error .malformed

/-- What stands in quotes in front of the cursor up to the closing one, and the place behind that. -/
def quotedText (quote : Char) : (fuel : Nat) → Cursor → Except Unread (List Char × Cursor)
  | 0, _ => .error .malformed
  | fuel + 1, c =>
    let go (found : List Char) (c : Cursor) : Except Unread (List Char × Cursor) := do
      let (more, c) ← quotedText quote fuel c
      return (found ++ more, c)
    let a := c.next
    if a == quote then
      if quote == '\'' && c.peek 1 == '\'' then go ['\''] (c.forward 2) else .ok ([], c.advance)
    else if a == '\\' && quote == '"' then do
      let (found, c) ← c.advance.escape
      go found c
    else if a == ' ' || a == '\t' || isBreak a then
      let (blanks, c) := c.span fun a => a == ' ' || a == '\t'
      if isBreak c.next then do
        let (found, c) := c.lineBreak
        let (breaks, c) ← orMalformed (quotedBreaks? (c.rest.length + 1) c)
        go (folded found breaks) c
      else if c.next == final then .error .malformed
      else go blanks c
    else if a == final then .error .malformed
    else go [a] c.advance

/-- The scalar in quotes in front of the cursor, and the place behind it. -/
def quotedScalar (c : Cursor) : Except Unread (String × Cursor) := do
  let (text, after) ← quotedText c.next (c.rest.length + 1) c.advance
  return (String.ofList text, after)

/-- How the line breaks at the end of a block are kept, and the columns its text is indented by. -/
structure BlockHeader where
  /-- All breaks, none, or the first of them. -/
  keep : Option Bool := none
  indent : Option Nat := none
  deriving DecidableEq, Repr

/-- The sign in front of the cursor that says how line breaks at the end are kept. -/
def chomping? (c : Cursor) : Option (Bool × Cursor) :=
  if c.next == '+' then some (true, c.advance)
  else if c.next == '-' then some (false, c.advance)
  else none

/-- The digit in front of the cursor that gives an indentation. -/
def indentation? (c : Cursor) : Option (Nat × Cursor) :=
  if c.next.isDigit then some (c.next.toNat - 48, c.advance) else none

/-- The header of a block, and the place behind its line. -/
def blockHeader? (c : Cursor) : Option (BlockHeader × Cursor) := do
  let (header, c) : BlockHeader × Cursor :=
    match c.chomping? with
    | some (keep, c) =>
      match c.indentation? with
      | some (n, c) => (⟨some keep, some n⟩, c)
      | none => (⟨some keep, none⟩, c)
    | none =>
      match c.indentation? with
      | some (n, c) =>
        match c.chomping? with
        | some (keep, c) => (⟨some keep, some n⟩, c)
        | none => (⟨none, some n⟩, c)
      | none => ({}, c)
  if header.indent == some 0 || !endsWord c.next then none
  else return (header, ← c.restOfLine?)

/-- The place behind spaces, but not behind a column. -/
def skipIndent : (fuel : Nat) → (column : Nat) → Cursor → Cursor
  | 0, _, c => c
  | fuel + 1, column, c =>
    if c.column < column && c.next == ' ' then skipIndent fuel column c.advance else c

/-- The line breaks in front of the cursor, indentation up to a column passed over, and the place behind. -/
def blockBreaks (column : Nat) : (fuel : Nat) → Cursor → List Char × Cursor
  | 0, c => ([], c)
  | fuel + 1, c =>
    let c := skipIndent column column c
    if isBreak c.next then
      let (found, c) := c.lineBreak
      let (more, c) := blockBreaks column fuel c
      (found ++ more, c)
    else ([], c)

/-- The line breaks in front of the first line of a block, the greatest column that spaces reach in those lines,
and the place behind. -/
def firstIndent : (fuel : Nat) → (reached : Nat) → Cursor → List Char × Nat × Cursor
  | 0, reached, c => ([], reached, c)
  | fuel + 1, reached, c =>
    if c.next == ' ' then firstIndent fuel (max reached c.advance.column) c.advance
    else if isBreak c.next then
      let (found, c) := c.lineBreak
      let (more, reached, c) := firstIndent fuel reached c
      (found ++ more, reached, c)
    else ([], reached, c)

/-- The lines of a block that is indented to a column: the text with its breaks, the last line's break, the
breaks after it, and the place behind. `breaks` are those in front of the next line. -/
def blockLines (fold : Bool) (column : Nat) : (fuel : Nat) → (lineBreak breaks : List Char) → Cursor →
    List Char × List Char × List Char × Cursor
  | 0, lineBreak, breaks, c => ([], lineBreak, breaks, c)
  | fuel + 1, lineBreak, breaks, c =>
    if c.column != column || c.next == final then ([], lineBreak, breaks, c)
    else
      let isFlush := c.next != ' ' && c.next != '\t'
      let (line, c) := c.span fun a => !endsLine a
      let (found, c) := c.lineBreak
      let (after, c) := blockBreaks column (c.rest.length + 1) c
      let joint :=
        if c.column != column || c.next == final then []
        else if fold && found == ['\n'] && isFlush && c.next != ' ' && c.next != '\t' then
          if after.isEmpty then [' '] else []
        else found
      let (more, lineBreak, rest, c) := blockLines fold column fuel found after c
      (breaks ++ line ++ joint ++ more, lineBreak, rest, c)

/-- The block of lines in front of the cursor, in a collection indented to `indent`, and the place behind it. -/
def blockScalar? (indent : Int) (c : Cursor) : Option (String × Cursor) := do
  let fold := c.next == '>'
  let (header, c) ← c.advance.blockHeader?
  let least := max (indent + 1).toNat 1
  let (column, breaks, c) : Nat × List Char × Cursor :=
    match header.indent with
    | some n =>
      let column := least + n - 1
      let (breaks, c) := blockBreaks column (c.rest.length + 1) c
      (column, breaks, c)
    | none =>
      let (breaks, reached, c) := firstIndent (c.rest.length + 1) 0 c
      (max least reached, breaks, c)
  let (text, last, rest, c) := blockLines fold column (c.rest.length + 1) [] breaks c
  let ending := (if header.keep == some false then [] else last) ++ (if header.keep == some true then rest else [])
  return (String.ofList (text ++ ending), c)

/-- Whether a plain scalar ends some characters ahead. -/
def endsPlain (inFlow : Bool) : List Char → Bool
  | [] => true
  | a :: rest =>
    let after := rest.headD final
    parts a || (a == ':' && (parts after || (inFlow && ",[]\x7b\x7d".toList.contains after))) ||
      (inFlow && ",?[]\x7b\x7d".toList.contains a)

/-- How many characters go on a plain scalar without a blank. -/
def plainLength (inFlow : Bool) : List Char → Nat
  | [] => 0
  | a :: rest => if endsPlain inFlow (a :: rest) then 0 else plainLength inFlow rest + 1

/-- The line breaks in front of the cursor, spaces passed over, and the place behind; the flag says that a new
document begins there. -/
def plainBreaks : (fuel : Nat) → Cursor → List Char × Bool × Cursor
  | 0, c => ([], false, c)
  | fuel + 1, c =>
    if c.next == ' ' then plainBreaks fuel c.advance
    else if isBreak c.next then
      let (found, c) := c.lineBreak
      if c.partsDocuments then (found, true, c)
      else
        let (more, stop, c) := plainBreaks fuel c
        (found ++ more, stop, c)
    else ([], false, c)

/-- What parts two words of a plain scalar, whether a line ended there, and the place behind; empty where the
scalar ends. -/
def plainSpaces (c : Cursor) : List Char × Bool × Cursor :=
  let (blanks, c) := c.span (· == ' ')
  if isBreak c.next then
    let (found, c) := c.lineBreak
    if c.partsDocuments then ([], true, c)
    else
      let (breaks, stop, c) := plainBreaks (c.rest.length + 1) c
      (if stop then [] else folded found breaks, true, c)
  else (blanks, false, c)

/-- The words of a plain scalar in front of the cursor, whether a line ended behind the last of them, and the
place behind; `spaces` stand in front of the first of them. -/
def plainWords (inFlow : Bool) (column : Int) : (fuel : Nat) → (spaces : List Char) → (newLine : Bool) → Cursor →
    List Char × Bool × Cursor
  | 0, _, newLine, c => ([], newLine, c)
  | fuel + 1, spaces, newLine, c =>
    let length := if c.next == '#' then 0 else plainLength inFlow c.rest
    if length = 0 then ([], newLine, c)
    else
      let word := c.rest.take length
      let (after, newLine, c) := plainSpaces (c.forward length)
      if after.isEmpty || c.next == '#' || (!inFlow && (c.column : Int) < column) then
        (spaces ++ word, newLine, c)
      else
        let (more, newLine, c) := plainWords inFlow column fuel after newLine c
        (spaces ++ word ++ more, newLine, c)

end Cursor

end MetaSearch.Yaml
