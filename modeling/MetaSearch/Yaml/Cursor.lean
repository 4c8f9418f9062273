import MetaSearch.Fault
import MetaSearch.Text.Basic

/-!
# Places in a document

A cursor stands in front of the rest of a document and knows its line and column. Past the end of a document
every character reads as `Cursor.final`, which no document holds.
-/

namespace MetaSearch.Yaml

/-- Why a text stands for nothing. -/
inductive Unread where
  | malformed
  /-- Something does not spell what it should. -/
  | fault (f : Fault)
  deriving DecidableEq, Repr, Inhabited

/-- What was read, where anything was. -/
def orMalformed {α : Type} : Option α → Except Unread α
  | some a => .ok a
  | none => .error .malformed

/-- A place in a document. -/
structure Cursor where
  rest : List Char
  index : Nat := 0
  line : Nat := 0
  column : Nat := 0
  deriving DecidableEq, Repr, Inhabited

namespace Cursor

/-- What is read past the end. -/
def final : Char := '\x00'

/-- Whether a character ends a line. -/
def isBreak (c : Char) : Bool :=
  c == '\n' || c == '\r' || c == '\x85' || c == '\u2028' || c == '\u2029'

/-- Whether a character ends a line or the document. -/
def endsLine (c : Char) : Bool := c == final || isBreak c

/-- Whether a character ends a word that may not hold a space. -/
def endsWord (c : Char) : Bool := c == ' ' || endsLine c

/-- Whether a character is a blank or ends a line or the document. -/
def parts (c : Char) : Bool := c == ' ' || c == '\t' || endsLine c

/-- The character some places ahead. -/
def peek (c : Cursor) (ahead : Nat) : Char := (c.rest[ahead]?).getD final

/-- The next character. -/
def next (c : Cursor) : Char := c.rest.headD final

/-- The place after the next character. -/
def advance (c : Cursor) : Cursor :=
  match c.rest with
  | [] => c
  | a :: rest =>
    let breaks := isBreak a && !(a == '\r' && rest.head? == some '\n')
    { rest, index := c.index + 1
      line := if breaks then c.line + 1 else c.line
      column := if breaks then 0 else if a == '\uFEFF' then c.column else c.column + 1 }

/-- The place some characters ahead. -/
def forward (c : Cursor) : (count : Nat) → Cursor
  | 0 => c
  | n + 1 => c.advance.forward n

/-- The characters of a class in front of the cursor, up to the first other one, and the place behind them. -/
def span (c : Cursor) (p : Char → Bool) : List Char × Cursor :=
  let run := c.rest.takeWhile p
  (run, c.forward run.length)

/-- The place behind the characters of a class. -/
def skip (c : Cursor) (p : Char → Bool) : Cursor := (c.span p).2

/-- The place behind spaces. -/
def skipSpaces (c : Cursor) : Cursor := c.skip (· == ' ')

/-- The line break in front of the cursor, and the place behind it; nothing where there is none. Only the two
separators of lines and paragraphs keep their own character. -/
def lineBreak (c : Cursor) : List Char × Cursor :=
  match c.rest with
  | '\r' :: '\n' :: _ => (['\n'], c.forward 2)
  | a :: _ =>
    if a == '\u2028' || a == '\u2029' then ([a], c.advance)
    else if isBreak a then (['\n'], c.advance)
    else ([], c)
  | [] => ([], c)

/-- Whether three characters that part documents stand alone in front of the cursor. -/
def marks (c : Cursor) (mark : Char) : Bool :=
  c.next == mark && c.peek 1 == mark && c.peek 2 == mark && parts (c.peek 3)

/-- Whether documents are parted in front of the cursor. -/
def partsDocuments (c : Cursor) : Bool := c.marks '-' || c.marks '.'

/-- The place behind spaces and a comment. -/
def skipComment (c : Cursor) : Cursor :=
  let c := c.skipSpaces
  if c.next == '#' then c.skip fun a => !endsLine a else c

/-- The place behind the rest of a line that holds spaces and a comment only. -/
def restOfLine? (c : Cursor) : Option Cursor :=
  let c := c.skipComment
  if endsLine c.next then some c.lineBreak.2 else none

theorem length_advance_le (c : Cursor) : c.advance.rest.length ≤ c.rest.length := by
  unfold advance
  split <;> simp_all

end Cursor

end MetaSearch.Yaml
