import MetaSearch.Markup.Entity
import MetaSearch.Text.Blank

/-!
# Tokens of hypertext

Hypertext is cut into texts, tags, comments and document types. Every text has a reading: what looks like a tag
but is none is text or a comment. Behind the opening tags of some elements all is text up to their closing tag.
-/

namespace MetaSearch.Markup

/-- A token of hypertext. -/
inductive Token where
  | text (s : List Char)
  | opening (name : String) (attributes : List (String × String)) (closed : Bool)
  | closing (name : String)
  | comment
  | doctype
  deriving DecidableEq, Repr, Inhabited

namespace Scan

/-- Whether a character is a blank between the parts of a tag. -/
def isSpace (c : Char) : Bool :=
  c == ' ' || c == '\t' || c == '\n' || c == '\x0c' || c == '\r'

/-- The character of a numeric reference. -/
def numberedChar (n : Nat) : Char :=
  if n = 0 ∨ (0xD800 ≤ n ∧ n ≤ 0xDFFF) ∨ 0x10FFFF < n then '\uFFFD'
  else if 0x80 ≤ n ∧ n ≤ 0x9F then Char.ofNat (highControls.getD (n - 0x80) n)
  else Char.ofNat n

/-- The number that digits spell in a base. -/
def numberOf (base : Nat) (ds : List Char) : Nat :=
  (ds.filterMap Json.hexValue?).foldl (fun n d => base * n + d) 0

/-- The characters of the longest known name of at most `n` characters at the front of a text, with the length of
the name. -/
def nameAt? (s : List Char) : (n : Nat) → Option (List Char × Nat)
  | 0 => none
  | n + 1 =>
    match entities[String.ofList (s.take (n + 1))]? with
    | some image => some (image.toList, n + 1)
    | none => nameAt? s n

/-- What the reference after an ampersand stands for, with its length. In an attribute a name without its
semicolon is no reference where letters, digits or an equals sign follow. -/
def reference? (inAttribute : Bool) (s : List Char) : Option (List Char × Nat) :=
  let closed (n : Nat) : Nat := if s[n]? == some ';' then n + 1 else n
  match s with
  | '#' :: 'x' :: rest | '#' :: 'X' :: rest =>
    let ds := rest.takeWhile fun c => (Json.hexValue? c).isSome
    if ds.isEmpty then none else some ([numberedChar (numberOf 16 ds)], closed (ds.length + 2))
  | '#' :: rest =>
    let ds := rest.takeWhile Char.isDigit
    if ds.isEmpty then none else some ([numberedChar (numberOf 10 ds)], closed (ds.length + 1))
  | _ =>
    match nameAt? s (min s.length 32) with
    | none => none
    | some (image, n) =>
      let open' := s[n - 1]? != some ';'
      let goesOn := (s[n]?).any fun c => c == '=' || c.isAlphanum
      if inAttribute && open' && goesOn then none else some (image, n)

/-- A text with its references read; `skip` counts the characters still to pass of the last one. -/
def decoded (inAttribute : Bool) (skip : Nat) : List Char → List Char
  | [] => []
  | c :: s =>
    match skip with
    | skip + 1 => decoded inAttribute skip s
    | 0 =>
      if c == '&' then
        match reference? inAttribute s with
        | some (image, n) => image ++ decoded inAttribute n s
        | none => c :: decoded inAttribute 0 s
      else c :: decoded inAttribute 0 s

/-- A name as it counts: in small letters. -/
def nameOf (cs : List Char) : String :=
  String.ofList (cs.map Char.toLower)

/-- What stands in front of the first place of a character, and what follows it. -/
def upTo? (mark : Char) : List Char → Option (List Char × List Char)
  | [] => none
  | c :: s => if c == mark then some ([], s) else (upTo? mark s).map fun (a, b) => (c :: a, b)

/-- The value of an attribute behind its equals sign and what follows it. -/
def attributeValue? (s : List Char) : Option (String × List Char) :=
  match s.dropWhile isSpace with
  | [] => none
  | '>' :: rest => some ("", '>' :: rest)
  | c :: rest =>
    if c == '"' || c == '\'' then
      (upTo? c rest).map fun (value, rest) => (String.ofList (decoded true 0 value), rest)
    else
      let value := (c :: rest).takeWhile fun c => !(isSpace c || c == '>')
      some (String.ofList (decoded true 0 value), (c :: rest).drop value.length)

/-- Whether a character ends the name of an attribute. -/
def endsAttribute (c : Char) : Bool :=
  isSpace c || c == '/' || c == '>' || c == '='

/-- The attribute that begins a text with some other character than a blank, a slash or a bracket, and what
follows it. -/
def attribute? : List Char → Option ((String × String) × List Char)
  | [] => none
  | c :: s =>
    let more := s.takeWhile fun c => !endsAttribute c
    let name := nameOf (c :: more)
    match (s.drop more.length).dropWhile isSpace with
    | [] => none
    | '=' :: rest => (attributeValue? rest).map fun (value, rest) => ((name, value), rest)
    | rest => some ((name, ""), rest)

/-- The attributes of a tag, each name once and with its first value, whether the tag closes itself, and what
follows the tag; nothing where it does not end. -/
def attributes? : (fuel : Nat) → List (String × String) → List Char →
    Option (List (String × String) × Bool × List Char)
  | 0, _, _ => none
  | fuel + 1, found, s =>
    match s.dropWhile isSpace with
    | [] => none
    | '>' :: rest => some (found.reverse, false, rest)
    | '/' :: '>' :: rest => some (found.reverse, true, rest)
    | '/' :: rest => attributes? fuel found rest
    | s =>
      match attribute? s with
      | none => none
      | some ((name, value), rest) =>
        attributes? fuel (if found.any (·.1 == name) then found else (name, value) :: found) rest

/-- What follows a comment's text at its end mark. -/
def afterComment : List Char → List Char
  | [] => []
  | '-' :: '-' :: '>' :: rest => rest
  | '-' :: '-' :: '!' :: '>' :: rest => rest
  | _ :: rest => afterComment rest

/-- What follows a comment that begins a text. -/
def closeComment : List Char → List Char
  | '>' :: rest => rest
  | '-' :: '>' :: rest => rest
  | s => afterComment s

/-- What follows the next closing bracket. -/
def afterBracket (s : List Char) : List Char :=
  ((upTo? '>' s).map (·.2)).getD []

/-- Whether a text begins with a word in any case. -/
def beginsWord (word : String) (s : List Char) : Bool :=
  Text.begins word.toList (s.take word.length |>.map Char.toLower)

/-- Whether a text begins with a mark and the whole name of a tag. -/
def beginsTag (mark name : String) (s : List Char) : Bool :=
  beginsWord (mark ++ name) s &&
    ((s[mark.length + name.length]?).any fun c => isSpace c || c == '/' || c == '>')

/-- How the text of an element is read. -/
inductive Mode where
  /-- As text and tags. -/
  | mixed
  /-- As text with references up to the closing tag. -/
  | escapable
  /-- As plain text up to the closing tag. -/
  | raw
  /-- As a program, in which a comment may hold whole elements of the same kind. -/
  | program
  /-- As plain text to the end. -/
  | endless
  deriving DecidableEq, Repr

/-- How the text of an element is read, by the element's name. -/
def modeOf (name : String) : Mode :=
  if name == "title" || name == "textarea" then .escapable
  else if ["style", "xmp", "iframe", "noembed", "noframes"].contains name then .raw
  else if name == "script" then .program
  else if name == "plaintext" then .endless
  else .mixed

/-- The text up to the closing tag of an element, and the rest from there. -/
def rawText (name : String) : List Char → List Char × List Char
  | [] => ([], [])
  | c :: s =>
    if beginsTag "</" name (c :: s) then ([], c :: s)
    else
      let (text, rest) := rawText name s
      (c :: text, rest)

/-- The depth of comments and elements inside a program. -/
inductive Depth where
  | plain | comment | element
  deriving DecidableEq, Repr

/-- The text of a program up to its closing tag, and the rest from there. -/
def programText (depth : Depth) : List Char → List Char × List Char
  | [] => ([], [])
  | c :: s =>
    let here := c :: s
    if depth ≠ .element ∧ beginsTag "</" "script" here then ([], here)
    else
      let depth :=
        if depth = .plain then (if Text.begins "<!--".toList here then .comment else depth)
        else if Text.begins "-->".toList here then .plain
        else if depth = .comment ∧ beginsTag "<" "script" here then .element
        else if depth = .element ∧ beginsTag "</" "script" here then .comment
        else depth
      let (text, rest) := programText depth s
      (c :: text, rest)

/-- A text token, unless it is empty. -/
def ofText (s : List Char) : List Token :=
  if s.isEmpty then [] else [.text s]

/-- The token at the front of a text that begins with an opening bracket, and the rest. -/
def markup (fuel : Nat) (s : List Char) : List Token × List Char :=
  match s with
  | '!' :: '-' :: '-' :: rest => ([.comment], closeComment rest)
  | '!' :: rest => (if beginsWord "doctype" rest then [.doctype] else [.comment], afterBracket rest)
  | '?' :: rest => ([.comment], afterBracket rest)
  | '/' :: '>' :: rest => ([], rest)
  | ['/'] => ([.text ['<', '/']], [])
  | '/' :: c :: rest =>
    if c.isAlpha then
      let name := (c :: rest).takeWhile fun c => !(isSpace c || c == '/' || c == '>')
      match attributes? fuel [] ((c :: rest).drop name.length) with
      | some (_, _, rest) => ([.closing (nameOf name)], rest)
      | none => ([], [])
    else ([.comment], afterBracket (c :: rest))
  | c :: rest =>
    if c.isAlpha then
      let name := (c :: rest).takeWhile fun c => !(isSpace c || c == '/' || c == '>')
      match attributes? fuel [] ((c :: rest).drop name.length) with
      | some (attributes, closed, rest) => ([.opening (nameOf name) attributes closed], rest)
      | none => ([], [])
    else ([.text ['<']], c :: rest)
  | [] => ([.text ['<']], [])

/-- The text that follows an opening tag in its own mode, and the rest. -/
def contents (name : String) (s : List Char) : List Token × List Char :=
  match modeOf name with
  | .mixed => ([], s)
  | .escapable =>
    let (text, rest) := rawText name s
    (ofText (decoded false 0 text), rest)
  | .raw =>
    let (text, rest) := rawText name s
    (ofText text, rest)
  | .program =>
    let (text, rest) := programText .plain s
    (ofText text, rest)
  | .endless => (ofText s, [])

/-- The tokens of a text; each round takes at least one character. -/
def scan : (fuel : Nat) → List Char → List Token
  | 0, _ => []
  | _, [] => []
  | fuel + 1, c :: s =>
    if c == '<' then
      match markup (s.length + 1) s with
      | ([.opening name attributes false], rest) =>
        let (text, rest) := contents name rest
        .opening name attributes false :: text ++ scan fuel rest
      | (tokens, rest) => tokens ++ scan fuel rest
    else
      let text := (c :: s).takeWhile (· != '<')
      ofText (decoded false 0 text) ++ scan fuel ((c :: s).drop text.length)

/-- A text with every line ended by a line feed and no characters that are none. -/
def normalized : List Char → List Char
  | [] => []
  | '\r' :: '\n' :: s => '\n' :: normalized s
  | '\r' :: s => '\n' :: normalized s
  | c :: s => (if c == '\x00' then '\uFFFD' else c) :: normalized s

/-- The tokens of hypertext. -/
def tokens (text : String) : List Token :=
  let s := normalized text.toList
  scan (s.length + 1) s

end Scan

end MetaSearch.Markup
