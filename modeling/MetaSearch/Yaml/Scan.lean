import MetaSearch.Yaml.Scalar

/-!
# From text to tokens

A document is scanned token by token. Indentation opens and closes collections, and a scalar or flow collection
turns out to be a key only when a colon follows it on its line: until then the scan remembers where the key would
have begun. `tokens` gives the tokens of a text, or says why there are none.
-/

namespace MetaSearch.Yaml

/-- Where something stands that may turn out to be a key. -/
structure KeyPlace where
  /-- How many tokens stand before it. -/
  position : Nat
  /-- Whether it cannot be anything but a key. -/
  isRequired : Bool
  index : Nat
  line : Nat
  column : Nat
  deriving DecidableEq, Repr, Inhabited

/-- A scan: where it stands, what it has found, and which collections are open. -/
structure Scan where
  cursor : Cursor
  found : List Token := []
  /-- How many collections in brackets are open. -/
  depth : Nat := 0
  /-- The column of the innermost collection laid out by indentation. -/
  indent : Int := -1
  outerIndents : List Int := []
  allowsKey : Bool := true
  /-- What may turn out to be a key, by the depth it stands at. -/
  keys : List (Nat × KeyPlace) := []
  deriving Repr, Inhabited

namespace Scan

/-- How far behind its beginning a key may end. -/
def maxKeyLength : Nat := 1024

/-- Whether the scan is between brackets. -/
def inFlow (s : Scan) : Bool := s.depth != 0

/-- The column of the cursor. -/
def column (s : Scan) : Int := s.cursor.column

/-- The scan with a token found; the newest stands first. -/
def push (s : Scan) (t : Token) : Scan := { s with found := t :: s.found }

/-- The scan with a token put behind the first `position` ones. -/
def insertAt (s : Scan) (position : Nat) (t : Token) : Scan :=
  let newer := s.found.take (s.found.length - position)
  { s with found := newer ++ t :: s.found.drop newer.length }

/-- The place behind spaces, comments and empty lines, with the scan ready for what comes next. -/
def toNextToken : (fuel : Nat) → Scan → Scan
  | 0, s => s
  | fuel + 1, s =>
    let c := s.cursor.skipComment
    if Cursor.isBreak c.next then
      toNextToken fuel { s with cursor := c.lineBreak.2, allowsKey := s.allowsKey || !s.inFlow }
    else { s with cursor := c }

/-- The scan without the places that can no longer be keys; nothing where one of them had to be. -/
def dropStaleKeys? (s : Scan) : Option Scan :=
  let isStale (k : KeyPlace) : Bool :=
    k.line != s.cursor.line || k.index + maxKeyLength < s.cursor.index
  if s.keys.any fun (_, k) => isStale k && k.isRequired then none
  else some { s with keys := s.keys.filter fun (_, k) => !isStale k }

/-- The scan without a possible key at the present depth; nothing where it had to be one. -/
def dropKey? (s : Scan) : Option Scan :=
  if s.keys.any fun (d, k) => d == s.depth && k.isRequired then none
  else some { s with keys := s.keys.filter (·.1 != s.depth) }

/-- The scan with its place remembered as one where a key may begin. -/
def saveKey? (s : Scan) : Option Scan :=
  if s.allowsKey then do
    let s ← s.dropKey?
    let place : KeyPlace :=
      { position := s.found.length, isRequired := !s.inFlow && s.indent == s.column
        index := s.cursor.index, line := s.cursor.line, column := s.cursor.column }
    return { s with keys := (s.depth, place) :: s.keys }
  else some s

/-- Collections closed that are indented further than a column. -/
def unwindFrom (column : Int) : List Int → Scan → Scan
  | [], s => s
  | outer :: more, s =>
    if column < s.indent then
      unwindFrom column more { s.push .blockEnd with indent := outer, outerIndents := more }
    else s

/-- The scan with the collections closed that are indented further than a column. -/
def unwind (s : Scan) (column : Int) : Scan :=
  if s.inFlow then s else unwindFrom column s.outerIndents s

/-- The scan with a collection opened at a column, by a token behind the first `position` ones, where none is
open there yet. -/
def beginAt (s : Scan) (column : Int) (position : Nat) (t : Token) : Scan :=
  if s.indent < column then
    { s with indent := column, outerIndents := s.indent :: s.outerIndents }.insertAt position t
  else s

/-- The scan with a token found that is some characters long. -/
def take (s : Scan) (length : Nat) (t : Token) : Scan :=
  { s with cursor := s.cursor.forward length }.push t

/-- The end of the document. -/
def atEnd? (s : Scan) : Option Scan := do
  let s ← (s.unwind (-1)).dropKey?
  return { s.push .streamEnd with allowsKey := false, keys := [] }

/-- A directive. -/
def atDirective (s : Scan) : Except Unread Scan := do
  let s ← orMalformed (s.unwind (-1)).dropKey?
  let (d, c) ← s.cursor.directive
  return { s with allowsKey := false, cursor := c }.push (.directive d)

/-- A mark between documents. -/
def atDocumentMark? (s : Scan) (t : Token) : Option Scan := do
  let s ← (s.unwind (-1)).dropKey?
  return { s with allowsKey := false }.take 3 t

/-- An opening bracket. -/
def atOpening? (s : Scan) (t : Token) : Option Scan := do
  let s ← s.saveKey?
  return { s with depth := s.depth + 1, allowsKey := true }.take 1 t

/-- A closing bracket. -/
def atClosing? (s : Scan) (t : Token) : Option Scan := do
  let s ← s.dropKey?
  if s.depth = 0 then none
  else return { s with depth := s.depth - 1, allowsKey := false }.take 1 t

/-- A comma between entries. -/
def atComma? (s : Scan) : Option Scan := do
  let s ← { s with allowsKey := true }.dropKey?
  return s.take 1 .flowEntry

/-- A dash in front of an entry. -/
def atDash? (s : Scan) : Option Scan := do
  if !s.inFlow && !s.allowsKey then none
  else
    let s := if s.inFlow then s else s.beginAt s.column s.found.length .sequenceStart
    let s ← { s with allowsKey := true }.dropKey?
    return s.take 1 .blockEntry

/-- A question mark in front of a key. -/
def atQuestion? (s : Scan) : Option Scan := do
  if !s.inFlow && !s.allowsKey then none
  else
    let s := if s.inFlow then s else s.beginAt s.column s.found.length .mappingStart
    let s ← { s with allowsKey := !s.inFlow }.dropKey?
    return s.take 1 .key

/-- A colon in front of a value; what may be a key at this depth is one. -/
def atColon? (s : Scan) : Option Scan :=
  match List.lookup s.depth s.keys with
  | some k =>
    let s := { s with keys := s.keys.filter (·.1 != s.depth) }.insertAt k.position .key
    let s := if s.inFlow then s else s.beginAt k.column k.position .mappingStart
    some ({ s with allowsKey := false }.take 1 .value)
  | none =>
    if !s.inFlow && !s.allowsKey then none
    else do
      let s := if s.inFlow then s else s.beginAt s.column s.found.length .mappingStart
      let s ← { s with allowsKey := !s.inFlow }.dropKey?
      return s.take 1 .value

/-- Something read by `read` that may begin a key. -/
def atName (s : Scan) (read : Cursor → Except Unread (Token × Cursor)) : Except Unread Scan := do
  let s ← orMalformed s.saveKey?
  let (t, c) ← read s.cursor
  return { s with allowsKey := false, cursor := c }.push t

/-- A block of lines. -/
def atBlock? (s : Scan) : Option Scan := do
  let s ← { s with allowsKey := true }.dropKey?
  let (text, c) ← s.cursor.blockScalar? s.indent
  return { s with cursor := c }.push (.scalar text false)

/-- A plain scalar. -/
def atPlain? (s : Scan) : Option Scan := do
  let s ← s.saveKey?
  let (text, newLine, c) :=
    Cursor.plainWords s.inFlow (s.indent + 1) (s.cursor.rest.length + 1) [] false s.cursor
  return { s with allowsKey := newLine, cursor := c }.push (.scalar (String.ofList text) true)

/-- Whether a plain scalar may begin at the cursor. -/
def beginsPlain (s : Scan) : Bool :=
  let a := s.cursor.next
  !(Cursor.parts a || "-?:,[]\x7b\x7d#&*!|>'\"%@`".toList.contains a) ||
    (!Cursor.parts (s.cursor.peek 1) && (a == '-' || (!s.inFlow && (a == '?' || a == ':'))))

/-- The scan after the token at the cursor. -/
def step (s : Scan) : Except Unread Scan :=
  let c := s.cursor
  let a := c.next
  let stands := Cursor.parts (c.peek 1)
  if a == Cursor.final then orMalformed s.atEnd?
  else if a == '%' && c.column == 0 then s.atDirective
  else if c.column == 0 && c.marks '-' then orMalformed (s.atDocumentMark? .documentStart)
  else if c.column == 0 && c.marks '.' then orMalformed (s.atDocumentMark? .documentEnd)
  else if a == '[' then orMalformed (s.atOpening? .flowSequenceStart)
  else if a == '\x7b' then orMalformed (s.atOpening? .flowMappingStart)
  else if a == ']' then orMalformed (s.atClosing? .flowSequenceEnd)
  else if a == '\x7d' then orMalformed (s.atClosing? .flowMappingEnd)
  else if a == ',' then orMalformed s.atComma?
  else if a == '-' && stands then orMalformed s.atDash?
  else if a == '?' && (s.inFlow || stands) then orMalformed s.atQuestion?
  else if a == ':' && (s.inFlow || stands) then orMalformed s.atColon?
  else if a == '*' then s.atName fun c => orMalformed (c.name?.map fun (n, c) => (.reference n, c))
  else if a == '&' then s.atName fun c => orMalformed (c.name?.map fun (n, c) => (.anchor n, c))
  else if a == '!' then s.atName fun c => orMalformed (c.tag?.map fun (n, c) => (.tag n, c))
  else if (a == '|' || a == '>') && !s.inFlow then orMalformed s.atBlock?
  else if a == '\'' || a == '"' then
    s.atName fun c => c.quotedScalar.map fun (text, c) => (.scalar text false, c)
  else if s.beginsPlain then orMalformed s.atPlain?
  else .error .malformed

/-- The scan of the rest of a document. -/
def finish : (fuel : Nat) → Scan → Except Unread Scan
  | 0, _ => .error .malformed
  | fuel + 1, s => do
    let s ← orMalformed (toNextToken (s.cursor.rest.length + 1) s).dropStaleKeys?
    let s ← (s.unwind s.column).step
    if s.found.head? == some .streamEnd then return s else finish fuel s

end Scan

/-- Whether a character may stand in a document. -/
def isPrintable (c : Char) : Bool :=
  let n := c.toNat
  n == 9 || n == 10 || n == 13 || (0x20 ≤ n && n ≤ 0x7E) || n == 0x85 || (0xA0 ≤ n && n ≤ 0xD7FF) ||
    (0xE000 ≤ n && n ≤ 0xFFFD) || 0x10000 ≤ n

/-- The tokens of a document. -/
def tokens (text : String) : Except Unread (List Token) :=
  let s := text.toList
  if s.all isPrintable then
    let start : Cursor := { rest := s }
    let start := if s.head? == some '\uFEFF' then start.advance else start
    (Scan.finish (2 * s.length + 3) { cursor := start }).map fun scan => scan.found.reverse
  else .error .malformed

end MetaSearch.Yaml
