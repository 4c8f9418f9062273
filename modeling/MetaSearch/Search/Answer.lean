import MetaSearch.Extract.Page
import MetaSearch.Feed.Row
import MetaSearch.Site.Api
import MetaSearch.Site.Query

/-!
# Rows of answers

The body of an answer is read in the shape that its path declares. A feed served in place of a page is read as a
feed all the same, and sites that list more than was asked for have their rows matched with the keywords.
-/

namespace MetaSearch.Answer

/-- The body as the definition's filters leave it. -/
def filtered (now : Moment) (d : Definition) (body : String) : String :=
  if d.search.bodyFilters.isEmpty then body
  else (applyFilters now d.search.bodyFilters (.text body)).asText

/-- The shape in which a body is read. -/
def shapeOf (declared : AnswerShape) (body : String) : AnswerShape :=
  if declared = .html && Feed.isFeed body then .rss else declared

/-- The rows of a body in a shape. -/
def rowsOf (now : Moment) (d : Definition) (search : PreparedSearch) (link body : String) :
    AnswerShape → Except Trouble (List Row)
  | .rss | .xml | .torznab => Feed.rows body
  | .apibay => return Api.listedRows (← Extract.document body) link
  | .eztv => return Api.episodeRows (← Extract.document body)
  | .yts => return Api.versionRows (← Extract.document body)
  | .json => do
    let cuts ← Extract.documentRows (← Extract.document body) d.search.rows search.env
    return Extract.collect cuts (Extract.documentField now link) d.search.fields d.search.rows.filters
      search.env search.queryKeywords
  | .html => do
    let (page, cuts) ← Extract.pageRows (Markup.Page.ofHypertext body) d.search.rows search.env
    return Extract.collect cuts (Extract.pageField now link page) d.search.fields d.search.rows.filters
      search.env search.queryKeywords

/-- The rows of an answer that came from a link. -/
def rows (now : Moment) (d : Definition) (search : PreparedSearch) (link body : String) :
    Except Trouble (List Row) := do
  let body := filtered now d body
  let rows ← rowsOf now d search link body (shapeOf search.path.shape body)
  if search.path.shape.needsMatching then
    return rows.filter fun row => Extract.titleMatches (row.value "title") search.queryKeywords
  else return rows

end MetaSearch.Answer
