import MetaSearch.Markup.Token

/-!
# Trees of hypertext

The tokens of hypertext make up a tree although tags are left out or stand in the wrong place: some elements end
where others begin, the outermost elements are put in where they are missing, and text that stands outside the
body becomes a paragraph. A closing tag ends what is open inside its element, unless something of higher rank
is.
-/

namespace MetaSearch.Markup

/-- A part of a tree of hypertext. -/
inductive Node where
  | element (name : String) (attributes : List (String × String)) (children : List Node)
  | text (s : String)
  | comment
  deriving Repr, Inhabited

/-- An element that is still open; its children are kept with the newest first. -/
structure OpenElement where
  name : String
  attributes : List (String × String) := []
  children : List Node := []
  deriving Repr, Inhabited

/-- A tree in the making: the open elements with the innermost first, the finished parts with the newest
first. -/
structure TreeBuilder where
  stack : List OpenElement := []
  finished : List Node := []
  sawHead : Bool := false
  sawBody : Bool := false
  /-- Misplaced tags that were passed over, whose closing tags are to be passed over too. -/
  passedOver : Nat := 0
  deriving Repr, Inhabited

namespace TreeBuilder

/-- The elements that end where an element of one of the names behind them begins. -/
def endedBy : List (String × List String) :=
  let blocks := ["fieldset", "form", "li", "p", "table"]
  let lists := ["dd", "dl", "dt", "fieldset", "form", "li", "table", "ul"]
  let columns := ["col", "colgroup", "tbody", "tfoot", "thead", "tr"]
  [("a", ["a", "fieldset", "table", "td", "th"]), ("address", ["dd", "dl", "dt", "form", "li", "ul"]),
   ("b", ["center", "p", "td", "th"]), ("big", ["p"]), ("caption", columns), ("col", columns),
   ("colgroup", columns.drop 1), ("dd", ["dt"]), ("dir", ["dd", "dl", "dt", "form", "ul"]),
   ("dl", ["form", "li"]), ("dt", ["dd", "dl"]), ("font", ["center", "td", "th"]), ("form", ["form"]),
   ("h1", blocks), ("h2", blocks), ("h3", blocks), ("h4", blocks), ("h5", blocks), ("h6", blocks),
   ("head", ["a", "abbr", "acronym", "address", "b", "bdo", "big", "blockquote", "body", "br", "center",
     "cite", "code", "dd", "dfn", "dir", "div", "dl", "dt", "em", "fieldset", "font", "form", "frameset",
     "h1", "h2", "h3", "h4", "h5", "h6", "hr", "i", "iframe", "img", "kbd", "li", "listing", "map", "menu",
     "ol", "p", "pre", "q", "s", "samp", "small", "span", "strike", "strong", "sub", "sup", "table", "tt",
     "u", "ul", "var", "xmp"]),
   ("hr", ["form"]), ("i", ["center"]), ("legend", ["fieldset"]), ("li", ["li"]),
   ("link", ["body", "frameset"]), ("listing", lists), ("menu", ["dd", "dl", "dt", "form", "ul"]),
   ("ol", ["form"]), ("option", ["optgroup", "option"]),
   ("p", ["address", "blockquote", "body", "caption", "center", "col", "colgroup", "dd", "dir", "div", "dl",
     "dt", "frameset", "h1", "h2", "h3", "h4", "h5", "h6", "head", "hr", "li", "listing", "menu", "ol", "p",
     "pre", "table", "tbody", "td", "tfoot", "th", "title", "tr", "ul", "xmp"]),
   ("pre", lists), ("s", ["p"]), ("script", ["noscript"]), ("small", ["p"]), ("span", ["td", "th"]),
   ("strike", ["p"]), ("style", ["body", "frameset"]), ("tbody", ["tbody", "tfoot"]),
   ("td", ["tbody", "td", "tfoot", "th", "tr"]), ("tfoot", ["tbody"]),
   ("th", ["tbody", "td", "tfoot", "th", "tr"]), ("thead", ["tbody", "tfoot"]),
   ("title", ["body", "frameset"]), ("tr", ["tbody", "tfoot", "tr"]), ("tt", ["p"]),
   ("u", ["p", "td", "th"]), ("ul", ["address", "form", "menu", "ol", "pre"]), ("xmp", lists)]

/-- The elements without content. -/
def voidElements : List String :=
  ["area", "base", "basefont", "br", "col", "embed", "frame", "hr", "img", "input", "isindex", "link", "meta",
   "param"]

/-- The ranks of elements; a closing tag ends no open element of a higher rank. -/
def rank (name : String) : Nat :=
  (List.lookup name
    [("div", 150), ("td", 160), ("th", 160), ("tr", 170), ("thead", 180), ("tbody", 180), ("tfoot", 180),
     ("table", 190), ("head", 200), ("body", 200), ("html", 220)]).getD 100

/-- The name of the innermost open element. -/
def current? (b : TreeBuilder) : Option String :=
  b.stack.head?.map (·.name)

/-- The tree with a part added inside the innermost open element. -/
def add (b : TreeBuilder) (node : Node) : TreeBuilder :=
  match b.stack with
  | [] => { b with finished := node :: b.finished }
  | e :: rest => { b with stack := { e with children := node :: e.children } :: rest }

/-- The tree with a text added; texts that touch are one. -/
def addText (b : TreeBuilder) (s : String) : TreeBuilder :=
  match b.stack with
  | [] =>
    match b.finished with
    | .text t :: rest => { b with finished := .text (t ++ s) :: rest }
    | _ => b.add (.text s)
  | e :: rest =>
    match e.children with
    | .text t :: before => { b with stack := { e with children := .text (t ++ s) :: before } :: rest }
    | _ => b.add (.text s)

/-- The tree with an element opened. -/
def push (b : TreeBuilder) (name : String) (attributes : List (String × String) := []) : TreeBuilder :=
  { b with
    stack := { name, attributes } :: b.stack
    sawHead := b.sawHead || name == "head" || name == "body"
    sawBody := b.sawBody || name == "body" }

/-- The tree with the innermost open element ended. -/
def pop (b : TreeBuilder) : TreeBuilder :=
  match b.stack with
  | [] => b
  | e :: rest => { b with stack := rest }.add (.element e.name e.attributes e.children.reverse)

/-- The tree with the first `n` open elements ended. -/
def popMany : (n : Nat) → TreeBuilder → TreeBuilder
  | 0, b => b
  | n + 1, b => popMany n b.pop

/-- Whether an open element ends where another begins. -/
def ends (new : String) (old : OpenElement) : Bool :=
  ((List.lookup old.name endedBy).getD []).contains new

/-- The tree with the elements ended that end where another begins. -/
def makeRoom (b : TreeBuilder) (new : String) : TreeBuilder :=
  popMany (b.stack.takeWhile (ends new)).length b

/-- The elements that belong to the head of a page. -/
def headElements : List String := ["script", "style", "meta", "link", "title", "base"]

/-- The tree with the outermost elements opened that a new element needs. -/
def imply (b : TreeBuilder) (new : String) : TreeBuilder :=
  if new == "html" then b
  else
    let b := if b.stack.isEmpty then b.push "html" else b
    if new == "body" || new == "head" then b
    else if b.stack.length ≤ 1 && headElements.contains new then
      if b.sawHead then b else b.push "head"
    else if ["noframes", "frame", "frameset"].contains new then b
    else if b.sawBody || b.stack.any (fun e => e.name == "body" || e.name == "head") then b
    else b.push "body"

/-- The tree with a paragraph opened where text may not stand by itself. -/
def openParagraph (b : TreeBuilder) : TreeBuilder :=
  let b := if b.current? == some "head" then b.makeRoom "p" else b
  match b.current? with
  | none | some "html" | some "head" => ((b.makeRoom "p").imply "p").push "p"
  | some _ => b

/-- The tree with a text put in. Blanks outside the body stay where they are. -/
def putText (b : TreeBuilder) (s : List Char) : TreeBuilder :=
  match b.current? with
  | none | some "html" | some "head" =>
    let blanks := s.takeWhile Scan.isSpace
    let rest := s.drop blanks.length
    let b := if blanks.isEmpty then b else b.addText (String.ofList blanks)
    if rest.isEmpty then b else b.openParagraph.addText (String.ofList rest)
  | some _ => b.addText (String.ofList s)

/-- Whether an opening tag stands where its element cannot. -/
def isMisplaced (b : TreeBuilder) (name : String) : Bool :=
  (name == "html" && !b.stack.isEmpty) || (name == "head" && b.stack.length != 1) ||
    (name == "body" && b.stack.any (·.name == "body"))

/-- The tree after an opening tag. -/
def putOpening (b : TreeBuilder) (name : String) (attributes : List (String × String)) (closed : Bool) :
    TreeBuilder :=
  let b := (b.makeRoom name).imply name
  if b.isMisplaced name then { b with passedOver := b.passedOver + 1 }
  else
    let b := b.push name attributes
    if closed || voidElements.contains name then b.pop else b

/-- How many open elements a closing tag ends; none where its element is not open, or something of a higher rank
is open inside it. -/
def depthOf (b : TreeBuilder) (name : String) : Nat :=
  let inner := b.stack.takeWhile (·.name != name)
  if inner.length == b.stack.length || inner.any (rank ·.name > rank name) then 0
  else inner.length + 1

/-- The tree after a closing tag. -/
def putClosing (b : TreeBuilder) (name : String) : TreeBuilder :=
  if b.passedOver > 0 && ["html", "body", "head"].contains name then
    { b with passedOver := b.passedOver - 1 }
  else popMany (b.depthOf name) b

/-- The tree after one more token. -/
def put (b : TreeBuilder) : Token → TreeBuilder
  | .text s => b.putText s
  | .opening name attributes closed => b.putOpening name attributes closed
  | .closing name => b.putClosing name
  | .comment => b.add .comment
  | .doctype => b.add .comment

end TreeBuilder

namespace Node

/-- The finished parts of the tree of hypertext. -/
def ofHypertext (text : String) : List Node :=
  let text := if Text.startsWith text "\uFEFF" then Text.drop 1 text else text
  let b := (Scan.tokens text).foldl TreeBuilder.put {}
  (TreeBuilder.popMany b.stack.length b).finished.reverse

end Node

end MetaSearch.Markup
