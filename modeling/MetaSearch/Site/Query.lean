import MetaSearch.Address.Reference
import MetaSearch.Filter.Chain
import MetaSearch.Site.Basic
import MetaSearch.Template.Evaluate
import MetaSearch.Web.Message

/-!
# Putting a search to a site

A definition and a query make up one request for each link of the site. What does not depend on the link is
prepared once: `prepare` chooses the path, filters the keywords and fills in the templates of the path, the inputs
and the headers. Values that enter the path are percent-encoded, so that only the definition shapes it.
-/

namespace MetaSearch

/-- What is asked of a site. -/
structure Query where
  keywords : String
  categories : List Int := []
  deriving DecidableEq, Repr, Inhabited

/-- The request headers for an answer of a shape. -/
def AnswerShape.headers (shape : AnswerShape) : List (String × String) :=
  [("User-Agent", "Mozilla/5.0 (Windows NT 10.0; Win64; x64) AppleWebKit/537.36 (KHTML, like Gecko) " ++
      "Chrome/131.0.0.0 Safari/537.36"),
   ("Accept", accepted), ("Accept-Language", "en-US,en;q=0.5"), ("DNT", "1")]
where
  /-- The forms in which an answer is taken. -/
  accepted : String :=
    if shape.isFeed then "application/rss+xml, application/xml;q=0.9, text/xml;q=0.8, */*;q=0.5"
    else
      match shape with
      | .html => "text/html,application/xhtml+xml,application/xml;q=0.9,*/*;q=0.8"
      | _ => "application/json, text/javascript, */*; q=0.01"

namespace Definition

/-- Whether a mapping's category or the family it belongs to is among those asked for. -/
def isAskedFor (codes : List Int) (mapping : CategoryMapping) : Except Fault Bool := do
  let code ← Category.codeOfTarget mapping.target
  let parent := (Category.ofCode? code).bind (·.parent)
  return codes.contains (code : Int) || parent.any fun p => codes.contains (p : Int)

/-- The site's own categories for those asked for, each once. -/
def siteCategories (d : Definition) (codes : List Int) : Except Fault (List String) := do
  if codes.isEmpty then return []
  let mappings ← d.mappings.filterM (isAskedFor codes)
  return (mappings.map (·.id)).eraseDups

/-- The first path meant for one of the site's categories, else the first path. -/
def choosePath (d : Definition) (siteCategories : List String) : SearchPath :=
  let fitting := d.search.paths.find? fun p => p.categories.any siteCategories.contains
  fitting.getD (d.search.paths.headD default)

end Definition

/-- A search of a site, but for the link. -/
structure PreparedSearch where
  path : SearchPath
  /-- The keywords as the site wants them. -/
  keywords : String
  /-- The keywords as they were asked for. -/
  queryKeywords : String
  env : Environment
  target : String
  inputs : List (String × String) := []
  /-- What is added to the address as it is. -/
  rawQuery : String := ""
  headers : List (String × String) := []
  encoding : String := ""
  deriving Repr, Inhabited

namespace PreparedSearch

/-- The name of the input that is added to the address as it is. -/
def rawInput : String := "$raw"

/-- The text of a header's template; of several the first. -/
def headerTemplate : Datum → String
  | .list [] => ""
  | .list (d :: _) => d.asText
  | d => d.asText

/-- The address of a page under a link. -/
def address (p : PreparedSearch) (link : String) : Except Fault String := do
  let url ← Reference.absolute? (some p.target) link
  let url := (url.filter fun u => !u.isEmpty).getD link
  if p.rawQuery.isEmpty then return url
  else return url ++ (if Text.contains url "?" then "&" else "?") ++ p.rawQuery

/-- The request for a page under a link. -/
def request (p : PreparedSearch) (link : String) (timeout : Option Datum) : Except Fault Request := do
  let inputs := p.inputs.map fun (name, value) => (name, Datum.text value)
  let url ← p.address link
  return { method := Text.upper p.path.method.name, url, headers := p.headers, timeout
           params := if p.path.method = .get then inputs else []
           form := if p.path.method = .get then [] else inputs
           encoding := if p.encoding.isEmpty then none else some p.encoding }

end PreparedSearch

/-- A search of a site, made ready at a time under the settings of a user. -/
def prepare (now : Moment) (d : Definition) (query : Query) (settings : List (String × Datum)) :
    Except Fault PreparedSearch := do
  let config := Fields.merge d.settingDefaults settings
  let keywords := (applyFilters now d.search.keywordFilters (.text query.keywords)).asText
  let categories ← d.siteCategories query.categories
  let path := d.choosePath categories
  let asked := Datum.text query.keywords
  let env := Environment.forSearch now.date.year keywords config categories
    [(.text "Keywords", asked), (.text "Q", asked)]
  let inputs := (Fields.merge d.search.inputs path.inputs).map fun (name, value) =>
    (name, Template.evaluate env value.asText id)
  let templates := d.search.headers.map fun (name, value) =>
    (name, Template.evaluate env (PreparedSearch.headerTemplate value) id)
  let cookie := Text.strip ((List.lookup "cookie" config).getD .null).asText
  let cookies := if cookie.isEmpty then [] else [("Cookie", cookie)]
  return { path, keywords, queryKeywords := query.keywords, env
           target := Template.evaluate env path.path (Percent.quote "+")
           inputs := inputs.filter (·.1 != PreparedSearch.rawInput)
           rawQuery := (List.lookup PreparedSearch.rawInput inputs).getD ""
           headers := Fields.merge path.shape.headers (templates ++ cookies)
           encoding := d.encoding }

end MetaSearch
