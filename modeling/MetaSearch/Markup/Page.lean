import MetaSearch.Markup.Node

/-!
# Pages

A page holds the parts of a tree by number, each with the numbers of its children and of the part it lies in, so
that one can go up as well as down and move parts about. Part 0 is the page itself. Texts that consist of blanks
alone are one blank or one line end.
-/

namespace MetaSearch.Markup

/-- What a text is for. -/
inductive TextKind where
  | plain | style | script | template | rubyText | rubyParenthesis
  deriving DecidableEq, Repr, Inhabited

namespace TextKind

/-- The kind of the texts in an element of a name, where it has one of its own. -/
def ofElement? (name : String) : Option TextKind :=
  List.lookup name
    [("style", style), ("script", script), ("template", template), ("rt", rubyText),
     ("rp", rubyParenthesis)]

end TextKind

/-- What a part of a page is. -/
inductive Content where
  /-- The page itself. -/
  | page
  | element (name : String) (attributes : List (String × String))
  | text (kind : TextKind) (s : String)
  /-- A comment or a document type. -/
  | remark
  deriving DecidableEq, Repr, Inhabited

/-- A part of a page, with the part it lies in and its children. -/
structure Part where
  content : Content
  parent : Option Nat := none
  children : List Nat := []
  deriving Repr, Inhabited

/-- A page with its parts by number. -/
structure Page where
  parts : Array Part
  deriving Repr, Inhabited

namespace Page

/-- Attributes of every element whose values are lists of words. -/
def listAttributes : List String := ["class", "accesskey", "dropzone"]

/-- Attributes of single elements whose values are lists of words. -/
def listAttributesOf : List (String × List String) :=
  [("a", ["rel", "rev"]), ("link", ["rel", "rev"]), ("td", ["headers"]), ("th", ["headers"]),
   ("form", ["accept-charset"]), ("object", ["archive"]), ("area", ["rel"]), ("icon", ["sizes"]),
   ("iframe", ["sandbox"]), ("output", ["for"])]

/-- The value of an attribute; a list of words has one blank between two of them. -/
def attributeValue (element name value : String) : String :=
  if listAttributes.contains name || ((List.lookup element listAttributesOf).getD []).contains name then
    " ".intercalate (Text.words value)
  else value

/-- A text as a page holds it: blanks alone are one line end, or one blank. -/
def condensed (s : String) : String :=
  if s.toList.all Scan.isSpace then (if s.toList.contains '\n' then "\n" else " ") else s

/-- How the texts inside an element are held. -/
structure Setting where
  kind : TextKind := .plain
  keepsBlanks : Bool := false

/-- How the texts inside an element are held, by the element's name. -/
def Setting.within (s : Setting) (name : String) : Setting :=
  { kind := (TextKind.ofElement? name).getD s.kind
    keepsBlanks := s.keepsBlanks || name == "pre" || name == "textarea" }

mutual

/-- The parts with a node and all that lies in it added below a part. -/
def addNode (parent : Nat) (setting : Setting) (parts : Array Part) : Node → Array Part
  | .element name attributes children =>
    let id := parts.size
    let values := attributes.map fun (n, v) => (n, attributeValue name n v)
    let parts := parts.push { content := .element name values, parent := some parent }
    let (parts, ids) := addNodes id (setting.within name) parts children
    parts.modify id fun p => { p with children := ids }
  | .text s =>
    let s := if setting.keepsBlanks then s else condensed s
    parts.push { content := .text setting.kind s, parent := some parent }
  | .comment => parts.push { content := .remark, parent := some parent }

/-- The parts with nodes and all that lies in them added below a part, and the numbers of the nodes. -/
def addNodes (parent : Nat) (setting : Setting) (parts : Array Part) : List Node → Array Part × List Nat
  | [] => (parts, [])
  | node :: nodes =>
    let id := parts.size
    let (parts, ids) := addNodes parent setting (addNode parent setting parts node) nodes
    (parts, id :: ids)

end

/-- The page of a tree. -/
def ofNodes (nodes : List Node) : Page :=
  let (parts, ids) := addNodes 0 {} #[{ content := .page }] nodes
  ⟨parts.modify 0 fun p => { p with children := ids }⟩

/-- The page that hypertext makes up. -/
def ofHypertext (text : String) : Page :=
  ofNodes (Node.ofHypertext text)

/-- The part with a number. -/
def part (page : Page) (id : Nat) : Part :=
  page.parts.getD id { content := .remark }

/-- The children of a part. -/
def children (page : Page) (id : Nat) : List Nat :=
  (page.part id).children

/-- The part that a part lies in. -/
def parent? (page : Page) (id : Nat) : Option Nat :=
  (page.part id).parent

/-- The name of an element; the page itself has a name that no element can have. -/
def name? (page : Page) (id : Nat) : Option String :=
  match (page.part id).content with
  | .page => some "[document]"
  | .element name _ => some name
  | _ => none

/-- Whether a part is an element or the page itself. -/
def isTag (page : Page) (id : Nat) : Bool :=
  (page.name? id).isSome

/-- The attributes of a part. -/
def attributes (page : Page) (id : Nat) : List (String × String) :=
  match (page.part id).content with
  | .element _ attributes => attributes
  | _ => []

/-- The value of an attribute of a part. -/
def attribute? (page : Page) (id : Nat) (name : String) : Option String :=
  List.lookup name (page.attributes id)

/-- The parts that lie in a part, in the order of the page, to a depth. -/
def descend (page : Page) : (depth : Nat) → Nat → List Nat
  | 0, _ => []
  | depth + 1, id => (page.children id).flatMap fun child => child :: descend page depth child

/-- The parts that lie in a part, in the order of the page. -/
def descendants (page : Page) (id : Nat) : List Nat :=
  descend page page.parts.size id

/-- The parts that a part lies in, the innermost first, to a height. -/
def ascend (page : Page) : (height : Nat) → Nat → List Nat
  | 0, _ => []
  | height + 1, id =>
    match page.parent? id with
    | some p => p :: ascend page height p
    | none => []

/-- The parts that a part lies in, the innermost first. -/
def ancestors (page : Page) (id : Nat) : List Nat :=
  ascend page page.parts.size id

/-- The children of the part that a part lies in; for a part that lies in none, itself. -/
def family (page : Page) (id : Nat) : List Nat :=
  match page.parent? id with
  | some p => page.children p
  | none => [id]

/-- What stands before a part beside it, the nearest first. -/
def before (page : Page) (id : Nat) : List Nat :=
  ((page.family id).takeWhile (· != id)).reverse

/-- What stands after a part beside it. -/
def after (page : Page) (id : Nat) : List Nat :=
  ((page.family id).dropWhile (· != id)).drop 1

/-- The kind of text that counts as an element's own. -/
def ownKind (page : Page) (id : Nat) : TextKind :=
  ((page.name? id).bind TextKind.ofElement?).getD .plain

/-- The texts of some parts, of one kind. -/
def textOf (page : Page) (kind : TextKind) (ids : List Nat) : String :=
  String.join (ids.map fun id =>
    match (page.part id).content with
    | .text k s => if k = kind then s else ""
    | _ => "")

/-- The text of an element. -/
def text (page : Page) (id : Nat) : String :=
  page.textOf (page.ownKind id) (page.descendants id)

/-- The page with an element taken out of what it lies in. -/
def detach (page : Page) (id : Nat) : Page :=
  match page.parent? id with
  | none => page
  | some p =>
    ⟨(page.parts.modify p fun q => { q with children := q.children.filter (· != id) }).modify id
      fun q => { q with parent := none }⟩

/-- The page with the children of `source` moved to the end of `target`, and `source` taken out. -/
def absorb (page : Page) (target source : Nat) : Page :=
  let moved := page.children source
  let parts := moved.foldl (fun parts id => parts.modify id fun p => { p with parent := some target }) page.parts
  let parts := parts.modify source fun p => { p with children := [] }
  let parts := parts.modify target fun p => { p with children := p.children ++ moved }
  detach ⟨parts⟩ source

end Page

end MetaSearch.Markup
