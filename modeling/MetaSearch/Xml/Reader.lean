import MetaSearch.Datum.Json
import MetaSearch.Text.Basic

/-!
# Reading feeds

Feeds are read although they are not well formed: a closing tag ends the innermost open element whatever its
name, what is no tag is passed over, and what is open at the end ends there. After the first mistake references to
the five characters that markup gives a meaning are dropped too. References that the document does not resolve
part the texts around them.
-/

namespace MetaSearch.Xml

/-! ## Elements of feeds

Feeds are trees of named elements. A name belongs to a name space that the document gives it, or to none. What is
neither element nor text counts only in that it parts texts.
-/

/-- A part of a document. -/
inductive Item where
  | element (space : Option String) (name : String) (attributes : List (String × String))
      (contents : List Item)
  | text (s : String)
  | other
  deriving Repr, Inhabited

namespace Item

/-- The contents of an element. -/
def contents : Item → List Item
  | element _ _ _ cs => cs
  | _ => []

/-- The value of an attribute in no name space. -/
def attribute? (item : Item) (name : String) : Option String :=
  match item with
  | element _ _ attributes _ => List.lookup name attributes
  | _ => none

/-- Whether an item is an element of a name. -/
def isNamed (space : Option String) (name : String) : Item → Bool
  | element s n _ _ => s == space && n == name
  | _ => false

/-- The elements of a name directly in an item. -/
def children (item : Item) (space : Option String) (name : String) : List Item :=
  item.contents.filter (isNamed space name)

/-- The text that begins an element, up to the first item that is not text. -/
def text? (item : Item) : Option String :=
  let parts := item.contents.map fun | text s => some s | _ => none
  match parts.takeWhile Option.isSome with
  | [] => none
  | front => some (String.join (front.filterMap id))

mutual

/-- An item, if it is an element of a name, and those in it, in the order of the document. -/
def all (space : Option String) (name : String) : Item → List Item
  | element s n attributes cs =>
    (if s == space && n == name then [element s n attributes cs] else []) ++ allIn space name cs
  | _ => []

/-- The elements of a name among items and in them. -/
def allIn (space : Option String) (name : String) : List Item → List Item
  | [] => []
  | i :: is => all space name i ++ allIn space name is

end

end Item

/-- An element that is still open, with its contents, the newest first, and the name spaces in force in it. -/
structure OpenElement where
  space : Option String
  name : String
  attributes : List (String × String)
  contents : List Item := []
  spaces : List (String × String)
  deriving Repr, Inhabited

/-- A document while it is read. -/
structure Reading where
  stack : List OpenElement := []
  root : Option Item := none
  wellFormed : Bool := true
  /-- Whether a part of the document type lies elsewhere. -/
  outsideType : Bool := false
  entities : List (String × String) := []
  deriving Repr, Inhabited

namespace Reading

/-- Whether a character is a blank. -/
def isSpace (c : Char) : Bool := c == ' ' || c == '\t' || c == '\n' || c == '\r'

/-- Whether a character may begin a name; colons part a name in two. -/
def startsName (c : Char) : Bool :=
  let n := c.toNat
  c.isAlpha || c == '_' || (0xC0 ≤ n && n ≤ 0x2FF && n != 0xD7 && n != 0xF7) ||
    (0x370 ≤ n && n ≤ 0x1FFF && n != 0x37E) || n == 0x200C || n == 0x200D ||
    (0x2070 ≤ n && n ≤ 0x218F) || (0x2C00 ≤ n && n ≤ 0x2FEF) || (0x3001 ≤ n && n ≤ 0xD7FF) ||
    (0xF900 ≤ n && n ≤ 0xFDCF) || (0xFDF0 ≤ n && n ≤ 0xFFFD) || (0x10000 ≤ n && n ≤ 0xEFFFF)

/-- Whether a character may go on a name. -/
def continuesName (c : Char) : Bool :=
  let n := c.toNat
  startsName c || c.isDigit || c == '-' || c == '.' || n == 0xB7 || (0x300 ≤ n && n ≤ 0x36F) ||
    n == 0x203F || n == 0x2040

/-- Whether a character may stand in a document. -/
def isAllowed (c : Char) : Bool :=
  0x20 ≤ c.toNat && c.toNat != 0xFFFE && c.toNat != 0xFFFF || c == '\t' || c == '\n' || c == '\r'

/-- The part of a name that begins a text, and what follows it; empty where there is none. -/
def namePart (s : List Char) : List Char × List Char :=
  if s.head?.any startsName then
    let name := s.takeWhile continuesName
    (name, s.drop name.length)
  else ([], s)

/-- The whole name that begins a text, colons included, and what follows it. -/
def wholeName (s : List Char) : List Char × List Char :=
  if s.head?.any fun c => startsName c || c == ':' then
    let name := s.takeWhile fun c => continuesName c || c == ':'
    (name, s.drop name.length)
  else ([], s)

/-- The name that begins a text, with its prefix and what follows it. -/
def name? (s : List Char) : Option (Option String × String × List Char) :=
  match namePart s with
  | ([], ':' :: _) =>
    let (name, rest) := wholeName s
    if name.length ≤ 1 then none else some (none, String.ofList name, rest)
  | ([], _) => none
  | (first, ':' :: rest) =>
    match namePart rest with
    | ([], rest) =>
      let token := rest.takeWhile fun c => continuesName c || c == ':'
      some (none, String.ofList (first ++ ':' :: token), rest.drop token.length)
    | (second, ':' :: rest) =>
      let (more, rest) := wholeName rest
      some (some (String.ofList first), String.ofList (second ++ ':' :: more), rest)
    | (second, rest) => some (some (String.ofList first), String.ofList second, rest)
  | (first, rest) => some (none, String.ofList first, rest)

/-- The reading after a mistake in the document. -/
def mistake (r : Reading) : Reading := { r with wellFormed := false }

/-- The reading with an item put into the innermost open element. -/
def add (r : Reading) (item : Item) : Reading :=
  match r.stack with
  | [] => r
  | e :: rest => { r with stack := { e with contents := item :: e.contents } :: rest }

/-- The reading with a text put into the innermost open element; texts that touch are one. -/
def addText (r : Reading) (s : List Char) : Reading :=
  if s.isEmpty then r
  else
    match r.stack with
    | e :: rest =>
      match e.contents with
      | .text t :: before =>
        { r with stack := { e with contents := .text (t ++ String.ofList s) :: before } :: rest }
      | _ => r.add (.text (String.ofList s))
    | [] => r

/-- The reading with the innermost open element ended. -/
def close (r : Reading) : Reading :=
  match r.stack with
  | [] => r
  | e :: rest =>
    let item := Item.element e.space e.name e.attributes e.contents.reverse
    if rest.isEmpty then { r with stack := [], root := some (r.root.getD item) }
    else { r with stack := rest }.add item

/-- The reading with all open elements ended. -/
def closeAll : (n : Nat) → Reading → Reading
  | 0, r => r
  | n + 1, r => closeAll n r.close

/-- The character with a code point, where it may stand in a document. -/
def charOf? (n : Nat) : Option Char :=
  if (0xD800 ≤ n ∧ n ≤ 0xDFFF) ∨ 0x10FFFF < n ∨ n = 0 then none
  else if isAllowed (Char.ofNat n) then some (Char.ofNat n) else none

/-- The character of a numeric reference behind its number sign, and what follows it. -/
def numbered (s : List Char) : Option Char × List Char :=
  let (base, s) : Nat × List Char :=
    match s with
    | 'x' :: rest => (16, rest)
    | s => (10, s)
  let digits := s.takeWhile fun c => (Json.hexValue? c).any (· < base)
  match s.drop digits.length with
  | ';' :: rest =>
    if digits.isEmpty then (none, rest)
    else (charOf? ((digits.filterMap Json.hexValue?).foldl (fun n d => base * n + d) 0), rest)
  | rest => (none, rest)

/-- The characters that have a name in every document. -/
def predefined : List (String × Char) :=
  [("lt", '<'), ("gt", '>'), ("amp", '&'), ("quot", '"'), ("apos", '\'')]

/-- The reading after a reference in a text, behind its ampersand, and what follows it. -/
def reference (r : Reading) (s : List Char) : Reading × List Char :=
  match s with
  | '#' :: rest =>
    match numbered rest with
    | (some c, rest) => (r.addText [c], rest)
    | (none, rest) => (r.mistake, rest)
  | s =>
    match wholeName s with
    | ([], _) => (r.mistake, s)
    | (name, ';' :: rest) =>
      let name := String.ofList name
      match List.lookup name predefined with
      | some c => (if r.wellFormed then r.addText [c] else r, rest)
      | none =>
        if (List.lookup name r.entities).isSome then (if r.wellFormed then r.add .other else r, rest)
        else ((if r.outsideType then r else r.mistake).add .other, rest)
    | (_, rest) => (r.mistake, rest)

/-- The value of an attribute up to its closing quote, with blanks made alike and references read, and what
follows it; the rest alone where the value does not end well. -/
def attributeValue (r : Reading) (quote : Char) : (fuel : Nat) → List Char → List Char →
    Option (List Char) × List Char
  | 0, _, s => (none, s)
  | fuel + 1, found, s =>
    match s with
    | [] => (none, [])
    | '&' :: '#' :: rest =>
      let (c, rest) := numbered rest
      attributeValue r quote fuel (c.toList ++ found) rest
    | '&' :: rest =>
      match wholeName rest with
      | ([], _) => attributeValue r quote fuel found rest
      | (name, ';' :: rest) =>
        let image :=
          match List.lookup (String.ofList name) predefined with
          | some c => [c]
          | none => ((List.lookup (String.ofList name) r.entities).getD "").toList
        attributeValue r quote fuel (image.reverse ++ found) rest
      | (_, rest) => attributeValue r quote fuel found rest
    | c :: rest =>
      if c == quote then (some found.reverse, rest)
      else if c == '<' then (none, s)
      else if !isAllowed c then (none, s)
      else attributeValue r quote fuel ((if isSpace c then ' ' else c) :: found) rest

/-- Whether an opening tag ends at the front of a text. -/
def endsTag (s : List Char) : Bool :=
  match s with
  | [] | '>' :: _ | '/' :: '>' :: _ => true
  | _ => false

/-- The attributes of a tag as far as they are well written, with the reading and what follows them. -/
def attributes : (fuel : Nat) → Reading → List (Option String × String × String) → List Char →
    Reading × List (Option String × String × String) × List Char
  | 0, r, found, s => (r, found.reverse, s)
  | fuel + 1, r, found, s =>
    if endsTag s then (r, found.reverse, s)
    else
      match name? s with
      | none => (r.mistake, found.reverse, s)
      | some (space, name, rest) =>
        let next (r : Reading) (found : List (Option String × String × String)) (rest : List Char) :=
          let after := rest.dropWhile isSpace
          if endsTag rest then (r, found.reverse, rest)
          else if after.length == rest.length then (r.mistake, found.reverse, rest)
          else attributes fuel r found after
        match rest.dropWhile isSpace with
        | '=' :: rest =>
          match rest.dropWhile isSpace with
          | c :: rest =>
            if c == '"' || c == '\'' then
              match attributeValue r c (rest.length + 1) [] rest with
              | (some value, rest) =>
                if found.any fun (s, n, _) => s == space && n == name then next r.mistake found rest
                else next r ((space, name, String.ofList value) :: found) rest
              | (none, rest) => next r.mistake found rest
            else next r.mistake found (c :: rest)
          | [] => (r.mistake, found.reverse, [])
        | rest => next r.mistake found rest

/-- The name spaces in force outside all elements. -/
def outerSpaces : List (String × String) := [("xml", "http://www.w3.org/XML/1998/namespace")]

/-- The reading after an opening tag behind its bracket, and what follows it. -/
def opening (r : Reading) (s : List Char) : Reading × List Char :=
  match name? s with
  | none => (r.mistake, s)
  | some (space, name, rest) =>
    let (r, attributes, rest) := attributes (rest.length + 1) r [] (rest.dropWhile isSpace)
    let outer := ((r.stack.head?).map (·.spaces)).getD outerSpaces
    let declared := attributes.filterMap fun (s, n, v) =>
      if s == some "xmlns" then some (n, v)
      else if s == none && n == "xmlns" then some ("", v) else none
    let spaces := declared.reverse ++ outer
    let uri := (List.lookup (space.getD "") spaces).filter fun uri => !uri.isEmpty
    let name := if uri.isNone then (space.map (· ++ ":")).getD "" ++ name else name
    let plain := attributes.filterMap fun (s, n, v) =>
      match s with
      | none => if n == "xmlns" then none else some (n, v)
      | some s => if s == "xmlns" then none else some (s ++ ":" ++ n, v)
    let opened := { r with stack := { space := uri, name, attributes := plain, spaces } :: r.stack }
    match rest with
    | '/' :: '>' :: rest => (opened.close, rest)
    | '>' :: rest => (opened, rest)
    | rest => (opened.close.mistake, rest)

/-- The reading after a closing tag behind its slash, and what follows it. -/
def closing (r : Reading) (s : List Char) : Reading × List Char :=
  let (name, rest) := wholeName s
  let r := if name.isEmpty then r.mistake else r
  match rest.dropWhile isSpace with
  | '>' :: rest => (r.close, rest)
  | rest => (r.close.mistake, rest)

/-- What follows a mark, and what stands in front of it. -/
def upTo? (mark : String) (s : List Char) : Option (List Char × List Char) :=
  Text.cut? mark.toList s

/-- Whether a closing tag names the innermost open element. -/
def fits (r : Reading) (s : List Char) : Bool :=
  match r.stack with
  | e :: _ =>
    match name? s with
    | some (_, name, _) => Text.endsWith e.name name
    | none => false
  | [] => false

/-- The reading after the next piece of an element's contents, and what follows it. -/
def piece (r : Reading) (s : List Char) : Reading × List Char :=
  match s with
  | '<' :: '?' :: rest =>
    match wholeName rest with
    | ([], _) => (r.mistake, rest)
    | _ =>
      match upTo? "?>" rest with
      | some (_, rest) => (r.add .other, rest)
      | none => (r.mistake, [])
  | '<' :: '!' :: '[' :: 'C' :: 'D' :: 'A' :: 'T' :: 'A' :: '[' :: rest =>
    match upTo? "]]>" rest with
    | some (text, rest) => (r.addText text, rest)
    | none => (r.mistake, [])
  | '<' :: '!' :: '-' :: '-' :: rest =>
    match upTo? "-->" rest with
    | some (_, rest) => (r.add .other, rest)
    | none => (r.mistake, [])
  | '<' :: '/' :: rest => (if r.fits rest then r else r.mistake).closing rest
  | '<' :: rest => r.opening rest
  | '&' :: rest => r.reference rest
  | s =>
    let text := s.takeWhile fun c => c != '<' && c != '&'
    let allowed := text.filter isAllowed
    let r := if allowed.length < text.length || Text.holds "]]>".toList text then r.mistake else r
    (r.addText allowed, s.drop text.length)

/-- The reading after the contents of the outermost element. -/
def pieces : (fuel : Nat) → Reading → List Char → Reading
  | 0, r, _ => closeAll r.stack.length r
  | fuel + 1, r, s =>
    if r.stack.isEmpty || s.isEmpty then closeAll r.stack.length r
    else
      let (r, rest) := r.piece s
      pieces fuel r rest

/-- The entity that a declaration names, with its value, and what follows the declaration. -/
def declaration (s : List Char) : Option (String × String) × List Char :=
  let rest := s.dropWhile isSpace
  let (name, after) := wholeName rest
  match after.dropWhile isSpace with
  | c :: value =>
    if !name.isEmpty && (c == '"' || c == '\'') then
      match upTo? (String.singleton c) value with
      | some (value, rest) =>
        (some (String.ofList name, String.ofList value), ((upTo? ">" rest).map (·.2)).getD [])
      | none => (none, [])
    else (none, ((upTo? ">" s).map (·.2)).getD [])
  | [] => (none, [])

/-- The reading after the declarations inside a document type, and what follows them. -/
def declarations : (fuel : Nat) → Reading → List Char → Reading × List Char
  | 0, r, s => (r, s)
  | fuel + 1, r, s =>
    match s.dropWhile isSpace with
    | [] => (r, [])
    | ']' :: rest => (r, rest)
    | '<' :: '!' :: '-' :: '-' :: rest => declarations fuel r (((upTo? "-->" rest).map (·.2)).getD [])
    | '<' :: '!' :: 'E' :: 'N' :: 'T' :: 'I' :: 'T' :: 'Y' :: rest =>
      let (found, rest) := declaration rest
      declarations fuel { r with entities := r.entities ++ found.toList } rest
    | '<' :: rest => declarations fuel r (((upTo? ">" rest).map (·.2)).getD [])
    | _ :: rest => declarations fuel r rest

/-- The reading after a document type behind its mark, and what follows it. -/
def documentType (r : Reading) (s : List Char) : Reading × List Char :=
  let front := s.takeWhile fun c => c != '[' && c != '>'
  let outside := Text.holds "SYSTEM".toList front || Text.holds "PUBLIC".toList front
  let r := { r with outsideType := r.outsideType || outside }
  match s.drop front.length with
  | '[' :: rest =>
    let (r, rest) := declarations (rest.length + 1) r rest
    (r, ((upTo? ">" rest).map (·.2)).getD [])
  | rest => (r, rest.drop 1)

/-- The document behind what stands before its outermost element. -/
def prolog : (fuel : Nat) → Reading → List Char → Reading
  | 0, r, _ => r
  | fuel + 1, r, s =>
    match s.dropWhile isSpace with
    | '<' :: '?' :: rest => prolog fuel r (((upTo? "?>" rest).map (·.2)).getD [])
    | '<' :: '!' :: '-' :: '-' :: rest => prolog fuel r (((upTo? "-->" rest).map (·.2)).getD [])
    | '<' :: '!' :: 'D' :: 'O' :: 'C' :: 'T' :: 'Y' :: 'P' :: 'E' :: rest =>
      let (r, rest) := r.documentType rest
      prolog fuel r rest
    | '<' :: rest =>
      let (r, rest) := r.opening rest
      pieces (rest.length + 1) r rest
    | _ => r

end Reading

/-- The outermost element of a document. -/
def read? (text : String) : Option Item :=
  let s := Text.withLineFeeds text.toList
  let s := if s.head? == some '\uFEFF' then s.drop 1 else s
  (Reading.prolog (s.length + 1) {} s).root

end MetaSearch.Xml
