import MetaSearch.Feed.Row
import MetaSearch.Search.Visit
import MetaSearch.Shape.Scalar
import MetaSearch.Web.Exchange

/-!
# Indexers

What can be searched: sites with definitions, and endpoints that answer searches with feeds of their own. An endpoint
selects on its side, so that what its feed lists is taken as it is.
-/

namespace MetaSearch

/-- What is told about an indexer. -/
structure IndexerInfo where
  id : String
  name : String
  source : String
  privacy : String := "public"
  protocol : String := "torrent"
  priority : Int := 25
  links : List String := []
  categories : List Int := []
  description : String := ""
  language : String := ""
  deriving DecidableEq, Repr, Inhabited

/-- What is told about a site, under a priority of its own where one is given. -/
def Definition.info (d : Definition) (priority : Option Int) : Except Fault IndexerInfo := do
  let codes ← Category.codesOfMappings d.mappings
  return { id := d.id, name := d.name, source := "definition", privacy := d.privacy.name, protocol := d.protocol,
           priority := priority.getD d.priority, links := d.allLinks, categories := codes.map Int.ofNat,
           description := d.description, language := d.language }

/-- A service that answers searches with feeds. -/
structure Endpoint where
  id : String
  name : String
  url : String
  apiKey : Option String := none
  priority : Int := 25
  categories : List Int := []
  enabled : Bool := true
  deriving DecidableEq, Repr, Inhabited

namespace Endpoint

/-- An endpoint, read from a document; one without a name has its identifier for one. -/
def shape : Shape Endpoint :=
  Shape.record "TorznabEndpointConfig" fun entries =>
    (fun id (name : String) url apiKey priority categories enabled =>
      { id, name := if name.isEmpty then id else name, url, apiKey, priority, categories, enabled }) <$>
      Shape.required entries "id" Shape.text <*>
      Shape.field entries "name" Shape.text "" <*>
      Shape.required entries "url" Shape.text <*>
      Shape.field entries "api_key" (Shape.orNull Shape.text) none <*>
      Shape.field entries "priority" Shape.whole 25 <*>
      Shape.field entries "categories" (Shape.list Shape.whole) [] <*>
      Shape.field entries "enabled" Shape.truth true

/-- What is told about an endpoint. -/
def info (e : Endpoint) : IndexerInfo :=
  { id := e.id, name := e.name, source := "torznab", priority := e.priority, links := [e.url],
    categories := e.categories.mergeSort (· ≤ ·) }

/-- What is needed of an endpoint to understand its rows. -/
def profile (e : Endpoint) : SiteProfile :=
  { indexerId := e.id, indexerName := e.name, priority := e.priority }

/-- The request that puts a search to an endpoint. -/
def request (e : Endpoint) (query : Query) (timeout : Option Datum) : Request :=
  let key := (e.apiKey.filter fun k => !k.isEmpty).toList.map fun k => ("apikey", Datum.text k)
  let categories := if query.categories.isEmpty then []
    else [("cat", Datum.text (",".intercalate (query.categories.map Datum.intText)))]
  { url := e.url, timeout
    params := [("t", .text "search"), ("q", .text query.keywords)] ++ key ++ categories }

/-- The releases that an endpoint lists for a search. -/
def releases {σ : Type} (e : Endpoint) (net : Network σ) (now : Moment) (query : Query)
    (timeout : Option Datum) : Visit σ (List Release) := do
  let response ← net.fetch (e.request query timeout)
  if response.status ≥ 400 then Visit.stop (Visit.refusal response.status e.url)
  else
    let rows ← Visit.settle (Feed.rows response.body)
    Visit.settle (orTrouble (releasesOf rows e.profile now))

/-- A search of an endpoint. Faults are not dealt with here. -/
def visit {σ : Type} (e : Endpoint) (net : Network σ) (now : Moment) (query : Query)
    (timeout : Option Datum) : ExceptT Fault (StateM σ) Outcome := do
  match ← (e.releases net now query timeout).run with
  | .ok releases => return { indexerId := e.id, indexerName := e.name, releases }
  | .error (.fault f) => throw f
  | .error (.setback s) =>
    return { indexerId := e.id, indexerName := e.name
             failure := some { kind := .ofLast (some s), message := s.message, attempts := 1 } }

end Endpoint

end MetaSearch
