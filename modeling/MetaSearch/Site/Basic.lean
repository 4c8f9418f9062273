import MetaSearch.Category.Mapping
import MetaSearch.Fields

/-!
# Sites

What a definition says about a site: where it is found, how a search is put to it, how its answers are cut into
rows and fields, and which categories it files releases under.
-/

namespace MetaSearch

/-- The shapes in which sites answer. -/
inductive AnswerShape where
  | html | json | xml | rss | torznab | apibay | eztv | yts
  deriving DecidableEq, Repr, Inhabited

namespace AnswerShape

/-- The names of the shapes. -/
def names : List (String × AnswerShape) :=
  [("html", .html), ("json", .json), ("xml", .xml), ("rss", .rss), ("torznab", .torznab),
   ("apibay", .apibay), ("eztv", .eztv), ("yts", .yts)]

/-- The name of a shape. -/
def name (shape : AnswerShape) : String :=
  ((names.find? (·.2 == shape)).map (·.1)).getD ""

/-- The shape with a name. -/
def ofName? (name : String) : Option AnswerShape :=
  (names.find? (·.1 == name)).map (·.2)

/-- Whether answers of this shape are feeds. -/
def isFeed : AnswerShape → Bool
  | xml | rss | torznab => true
  | _ => false

/-- Whether sites with this shape list more than was asked for, so that rows are matched with the keywords
afterwards. -/
def needsMatching : AnswerShape → Bool
  | xml | rss | eztv => true
  | _ => false

theorem ofName?_name (shape : AnswerShape) : ofName? shape.name = some shape := by
  cases shape <;> rfl

end AnswerShape

/-- How a request is sent. -/
inductive Method where
  | get | post
  deriving DecidableEq, Repr, Inhabited

/-- The names of the methods. -/
def Method.names : List (String × Method) :=
  [("get", .get), ("post", .post)]

/-- The name of a method. -/
def Method.name : Method → String
  | .get => "get"
  | .post => "post"

/-- Who may search a site. -/
inductive Privacy where
  | everyone | invited | members
  deriving DecidableEq, Repr, Inhabited

namespace Privacy

/-- The names of the kinds of access. -/
def names : List (String × Privacy) :=
  [("public", .everyone), ("semi-private", .invited), ("private", .members)]

/-- The name of a kind of access. -/
def name (p : Privacy) : String :=
  ((names.find? (·.2 == p)).map (·.1)).getD ""

/-- The kind of access with a name. -/
def ofName? (name : String) : Option Privacy :=
  (names.find? (·.1 == name)).map (·.2)

theorem ofName?_name (p : Privacy) : ofName? p.name = some p := by
  cases p <;> rfl

end Privacy

/-- How one field of a row is found. -/
structure FieldRule where
  name : String
  selector : Option String := none
  /-- A template that is the field's text, whatever the row holds. -/
  text : Option String := none
  /-- Templates by what the row matches, the first match first. -/
  cases : List (String × String) := []
  attributeName : Option String := none
  remove : Option String := none
  default : Option String := none
  optional : Bool := false
  append : Bool := false
  filters : List FilterCall := []
  deriving Repr, Inhabited

/-- How an answer is cut into rows. -/
structure RowRule where
  selector : String
  /-- How many rows after a row belong to it. -/
  after : Int := 0
  filters : List FilterCall := []
  deriving Repr, Inhabited

/-- One kind of request that a site takes. -/
structure SearchPath where
  path : String
  method : Method := .get
  shape : AnswerShape := .html
  categories : List String := []
  inputs : List (String × Datum) := []
  deriving Repr, Inhabited

/-- How a site is searched. -/
structure SearchRule where
  paths : List SearchPath
  rows : RowRule
  fields : List FieldRule
  inputs : List (String × Datum) := []
  headers : List (String × Datum) := []
  keywordFilters : List FilterCall := []
  bodyFilters : List FilterCall := []
  deriving Repr, Inhabited

/-- A setting that a user may change. -/
structure Setting where
  name : String
  kind : String := "text"
  label : String := ""
  default : Datum := .null
  options : List (String × String) := []
  deriving Repr, Inhabited

/-- What is known of a site and how it is searched. -/
structure Definition where
  id : String
  name : String
  links : List String
  search : SearchRule
  description : String := ""
  language : String := "en-US"
  privacy : Privacy := .everyone
  encoding : String := "UTF-8"
  protocol : String := "torrent"
  priority : Int := 25
  legacyLinks : List String := []
  settings : List Setting := []
  mappings : List CategoryMapping := []
  modes : List (String × List String) := []
  deriving Repr, Inhabited

namespace Definition

/-- All links, the primary ones first, each once. -/
def allLinks (d : Definition) : List String :=
  (d.links ++ d.legacyLinks).eraseDups

/-- The values that settings have unless a user changes them. -/
def settingDefaults (d : Definition) : List (String × Datum) :=
  d.settings.foldl
    (fun values s =>
      if s.kind == "info" || s.default.isNull then values else Fields.put s.name s.default values) []

end Definition

/-- What is needed of a site to understand its rows. -/
structure SiteProfile where
  indexerId : String
  indexerName : String
  privacy : Privacy := .everyone
  protocol : String := "torrent"
  priority : Int := 25
  mappings : List CategoryMapping := []
  deriving Repr, Inhabited

/-- The profile of a defined site, under a priority of its own where one is given. -/
def Definition.profile (d : Definition) (priority : Option Int) : SiteProfile :=
  { indexerId := d.id, indexerName := d.name, privacy := d.privacy, protocol := d.protocol,
    priority := priority.getD d.priority, mappings := d.mappings }

end MetaSearch
