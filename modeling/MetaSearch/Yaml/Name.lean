import MetaSearch.Datum.Json
import MetaSearch.Number.Numeral
import MetaSearch.Text.Utf8
import MetaSearch.Yaml.Token

/-!
# Names in documents

Anchors, aliases, tags and directives. Each is read from a cursor; nothing comes of one that is malformed.
-/

namespace MetaSearch.Yaml

/-- Whether a character may stand in a name. -/
def isNameChar (c : Char) : Bool := c.isAlphanum || c == '-' || c == '_'

/-- Whether a character may stand in a tag. -/
def isTagChar (c : Char) : Bool := c.isAlphanum || "-;/?:@&=+$,_.!~*'()[]%".toList.contains c

namespace Cursor

/-- The name behind a mark, and the place behind it. -/
def name? (c : Cursor) : Option (String × Cursor) :=
  let (name, c) := c.advance.span isNameChar
  if name.isEmpty || !(parts c.next || "?:,]\x7d%@`".toList.contains c.next) then none
  else some (String.ofList name, c)

/-- The bytes that percent signs in front of the cursor spell, and the place behind them. -/
def escapedBytes? : (fuel : Nat) → Cursor → Option (List UInt8 × Cursor)
  | 0, c => some ([], c)
  | fuel + 1, c =>
    if c.next != '%' then some ([], c)
    else do
      let high ← Json.hexValue? (c.peek 1)
      let low ← Json.hexValue? (c.peek 2)
      let (bytes, c) ← escapedBytes? fuel (c.forward 3)
      return ((16 * high + low).toUInt8 :: bytes, c)

/-- The characters of a tag, escaped ones decoded, and the place behind them. -/
def tagText? : (fuel : Nat) → Cursor → Option (List Char × Cursor)
  | 0, c => some ([], c)
  | fuel + 1, c =>
    let (run, c) := c.span fun a => isTagChar a && a != '%'
    if c.next == '%' then do
      let (bytes, c) ← escapedBytes? c.rest.length c
      let decoded ← Utf8.decode? bytes
      let (more, c) ← tagText? fuel c
      return (run ++ decoded ++ more, c)
    else some (run, c)

/-- The characters of a tag, of which there must be some. -/
def tagSuffix? (c : Cursor) : Option (String × Cursor) := do
  let (text, c) ← tagText? (c.rest.length + 1) c
  if text.isEmpty then none else return (String.ofList text, c)

/-- The handle of a tag: an exclamation mark, or a name between two. -/
def tagHandle? (c : Cursor) : Option (String × Cursor) :=
  if c.next != '!' then none
  else
    let (name, after) := c.advance.span isNameChar
    if after.next == '!' then some ("!" ++ String.ofList name ++ "!", after.advance)
    else if name.isEmpty && after.next == ' ' then some ("!", after)
    else none

/-- A tag, and the place behind it. -/
def tag? (c : Cursor) : Option (TagName × Cursor) := do
  let first := c.peek 1
  let (name, c) ←
    if first == '<' then do
      let (suffix, c) ← (c.forward 2).tagSuffix?
      if c.next == '>' then some (TagName.mk none suffix, c.advance) else none
    else if parts first then some (TagName.mk none "!", c.advance)
    else do
      let word := c.advance.rest.takeWhile fun a => !endsWord a
      let (handle, c) ← if word.contains '!' then c.tagHandle? else some ("!", c.advance)
      let (suffix, c) ← c.tagSuffix?
      some (TagName.mk (some handle) suffix, c)
  if endsWord c.next then some (name, c) else none

/-- A number of ASCII digits, and the place behind it. -/
def digits (c : Cursor) : Except Unread (Nat × Cursor) :=
  let (run, c) := c.span Char.isDigit
  if run.isEmpty then .error .malformed
  else if Numeral.maxDigits < run.length then .error (.fault .notANumber)
  else .ok (run.foldl (fun n d => 10 * n + (d.toNat - 48)) 0, c)

/-- The version that a directive asks for, and the place behind it. -/
def version (c : Cursor) : Except Unread (Directive × Cursor) := do
  let (major, c) ← c.skipSpaces.digits
  if c.next != '.' then throw .malformed
  else
    let (_, c) ← c.advance.digits
    if endsWord c.next then return (.version major, c) else throw .malformed

/-- The handle and prefix that a directive declares, and the place behind them. -/
def tagPrefix? (c : Cursor) : Option (Directive × Cursor) := do
  let (handle, c) ← c.skipSpaces.tagHandle?
  if c.next != ' ' then none
  else
    let (start, c) ← c.skipSpaces.tagSuffix?
    if endsWord c.next then some (.tag handle start, c) else none

/-- A directive, and the place behind its line. -/
def directive (c : Cursor) : Except Unread (Directive × Cursor) := do
  let (name, c) := c.advance.span isNameChar
  if name.isEmpty || !endsWord c.next then throw .malformed
  else
    let (directive, c) ←
      match String.ofList name with
      | "YAML" => c.version
      | "TAG" => orMalformed c.tagPrefix?
      | _ => pure (.other, c.skip fun a => !endsLine a)
    return (directive, ← orMalformed c.restOfLine?)

end Cursor

end MetaSearch.Yaml
