import MetaSearch.Release.Row
import MetaSearch.Search.Setback
import MetaSearch.Text.Blank
import MetaSearch.Text.Letter
import MetaSearch.Xml.Reader

/-!
# Rows of feeds

A feed lists releases as `item` elements. What the elements in none of the name spaces leave open, the attributes
of the torznab and newznab name spaces and the elements of the torrent name space say. `Feed.rows` refuses a
document that reports an error.
-/

namespace MetaSearch.Feed

open Xml

/-- The name spaces whose `attr` elements describe a release, in the order in which they count. -/
def attributeSpaces : List String :=
  ["http://torznab.com/schemas/2015/feed", "http://www.newznab.com/DTD/2010/feeds/attributes/"]

/-- The name space of torrent elements. -/
def torrentSpace : String := "http://xmlns.ezrss.it/0.1/"

/-- The torrent elements that are read, with the fields they fill. -/
def torrentFields : List (String × String) :=
  [("contentlength", "size"), ("infohash", "infohash"), ("magneturi", "magnet"), ("seeds", "seeders"),
    ("peers", "peers")]

/-- Whether a body that was announced as hypertext is a feed. -/
def isFeed (body : String) : Bool :=
  let head := Text.lower (String.ofList ((body.toList.take 2048).dropWhile Text.isBlank))
  Text.startsWith head "<rss" || (Text.startsWith head "<?xml" && Text.contains head "<rss")

/-- A text without blanks around it, where it is not blank. -/
def inked? (s : Option String) : Option String :=
  (s.map Text.strip).filter fun t => !t.isEmpty

/-- The text of the first element of a name in an item. -/
def textOf? (item : Item) (name : String) : Option String :=
  inked? ((item.children none name).head?.bind Item.text?)

/-- The name and value that an `attr` element gives. -/
def described? (item : Item) : Option (String × String) :=
  match Text.lower ((item.attribute? "name").getD ""), item.attribute? "value" with
  | "", _ | _, none => none
  | name, some value => some (name, value)

/-- The names and values that the `attr` elements of an item give. -/
def descriptions (item : Item) : List (String × String) :=
  attributeSpaces.flatMap fun space => (item.children (some space) "attr").filterMap described?

/-- Whether an item is an element whose name has a prefix that nothing binds. -/
def isUnbound : Item → Bool
  | .element _ name _ _ => name.toList.contains ':'
  | _ => false

/-- The field that a torrent element fills, and its text. -/
def torrentField? : Item → Option (String × String)
  | item@(.element (some space) name _ _) =>
    if space == torrentSpace then
      (List.lookup (Text.lower name) torrentFields).bind fun field =>
        (inked? item.text?).map fun t => (field, t)
    else none
  | _ => none

/-- The value of a torrent field; a later element replaces an earlier one. -/
def torrentText? (item : Item) (field : String) : Option String :=
  List.lookup field (item.contents.filterMap torrentField?).reverse

/-- The first of some texts that begins with a mark. -/
def linkOf? (mark : String) (candidates : List (Option String)) : Option String :=
  (candidates.filterMap id).find? fun s => Text.startsWith s mark

/-- The link to the page of a release: its comments, or its identifier where that is not the download itself. -/
def detailsOf? (guid comments download : Option String) : Option String :=
  match linkOf? "http" [comments] with
  | some link => some link
  | none => linkOf? "http" [guid.filter fun g => some g != download]

/-- The first value in a list that is given and not empty. -/
def firstGiven (values : List (Option String)) : Option String :=
  (values.filterMap id).find? fun s => !s.isEmpty

/-- The row of one item. -/
def row (item : Item) : Except Fault Row := do
  if item.contents.any isUnbound then throw .unboundName
  let described := descriptions item
  let first := fun name => List.lookup name described
  let enclosure := (item.children none "enclosure").head?
  let address := enclosure.bind (·.attribute? "url")
  let length := (enclosure.bind (·.attribute? "length")).filter fun s => s != "" && s != "0"
  let link := textOf? item "link"
  let guid := textOf? item "guid"
  let download := linkOf? "http" [address, link]
  let categories := (item.children none "category").filterMap fun c => inked? c.text?
  let fields : List (String × Option String) :=
    [("title", textOf? item "title"),
      ("details", detailsOf? guid (textOf? item "comments") download),
      ("download", download),
      ("magnet", linkOf? "magnet:" [first "magneturl", torrentText? item "magnet", link, guid, address]),
      ("infohash", firstGiven [first "infohash", torrentText? item "infohash"]),
      ("size", firstGiven [first "size", length, textOf? item "size", torrentText? item "size"]),
      ("seeders", firstGiven [first "seeders", torrentText? item "seeders"]),
      ("peers", firstGiven [first "peers", torrentText? item "peers"]),
      ("grabs", first "grabs"),
      ("date", textOf? item "pubDate"),
      ("category", (first "category").orElse fun _ => categories.head?),
      ("description", textOf? item "description")]
  let leechers := (first "leechers").toList.map fun s => ("leechers", some s)
  return (fields ++ leechers).map fun (name, value) => (name, (value.map Datum.text).getD .null)

/-- A document without the declaration at its front and without blanks around it. -/
def withoutDeclaration (body : String) : String :=
  let s := body.toList.dropWhile Text.isBlank
  let rest :=
    match Text.after? "<?xml".toList s with
    | some inside =>
      match inside.dropWhile (· != '>') with
      | _ :: rest =>
        if (inside.takeWhile (· != '>')).getLast? == some '?' then rest else s
      | [] => s
    | none => s
  Text.strip (String.ofList rest)

/-- Whether a document begins with a declaration that names an encoding. -/
def namesEncoding (text : String) : Bool :=
  match Text.after? "<?xml".toList text.toList with
  | none => false
  | some rest => go (rest.takeWhile (· != '>'))
where
  /-- Whether a blank and a quoted encoding stand in the inside of a declaration. -/
  go : List Char → Bool
    | [] => false
    | c :: s => (Text.isBlank c && isQuoted s) || go s
  /-- Whether a text begins with an encoding that is quoted. -/
  isQuoted (s : List Char) : Bool :=
    match Text.after? "encoding".toList s with
    | none => false
    | some s =>
      match s.dropWhile Text.isBlank with
      | '=' :: s =>
        match s.dropWhile Text.isBlank with
        | c :: s =>
          (c == '"' || c == '\'') &&
            (s.dropWhile fun c => c != '"' && c != '\'').length != 0
        | [] => false
      | _ => false

/-- The outermost element of a feed. -/
def root (body : String) : Except Trouble Item :=
  let text := withoutDeclaration body
  if text.isEmpty || namesEncoding text then giveUp (.unreadable "invalid feed")
  else
    match Xml.read? text with
    | none => giveUp (.unreadable "empty feed document")
    | some root => if isUnbound root then .error (.fault .unboundName) else .ok root

/-- What a document that reports an error says. -/
def errorOf? (root : Item) : Option String :=
  match root with
  | .element _ name _ _ =>
    if Text.lower name == "error" then
      some (Text.strip ("feed error " ++ (root.attribute? "code").getD "?" ++ ": " ++
        (root.attribute? "description").getD ""))
    else none
  | _ => none

/-- The rows of a feed. -/
def rows (body : String) : Except Trouble (List Row) := do
  let root ← root body
  match errorOf? root with
  | some message => giveUp (.unreadable message)
  | none => orTrouble ((root.all none "item").mapM row)

end MetaSearch.Feed
