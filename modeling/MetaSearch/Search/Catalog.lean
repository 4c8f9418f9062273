import MetaSearch.Config.Basic
import MetaSearch.Search.FanOut
import MetaSearch.Site.Registry

/-!
# Catalogs

The indexers that can be searched: the defined sites in the order of the registry, and behind them the endpoints.
What is switched off is left out, and so is an endpoint under the identifier of a site.
-/

namespace MetaSearch

/-- Something to search, with what is set for it. -/
inductive Indexer where
  | site (definition : Definition) (priority : Option Int) (settings : List (String × Datum))
  | endpoint (e : Endpoint)
  deriving Repr, Inhabited

namespace Indexer

/-- The identifier of an indexer. -/
def id : Indexer → String
  | site d _ _ => d.id
  | endpoint e => e.id

/-- The name of an indexer. -/
def name : Indexer → String
  | site d _ _ => d.name
  | endpoint e => e.name

/-- What is told about an indexer. -/
def info : Indexer → Except Fault IndexerInfo
  | site d priority _ => d.info priority
  | endpoint e => .ok e.info

/-- A search of an indexer; `message` tells what a fault is told as. -/
def ask {σ : Type} (net : Network σ) (now : Moment) (timeout : Option Datum) (message : Fault → String)
    (i : Indexer) (query : Query) : StateM σ Reply := do
  match i with
  | site d priority settings =>
    return .outcome (← d.visit net now query settings timeout (d.profile priority))
  | endpoint e =>
    match ← (e.visit net now query timeout).run with
    | .ok o => return .outcome o
    | .error f => return .crashed (message f)

/-- An indexer as something that can be searched. -/
def searcher {σ : Type} (net : Network σ) (now : Moment) (timeout : Option Datum) (message : Fault → String)
    (i : Indexer) : Searcher σ :=
  { id := i.id, name := i.name, ask := ask net now timeout message i }

end Indexer

namespace Registry

/-- The sites that are not switched off. -/
def sites (r : Registry) (c : Config) : List Indexer :=
  r.definitions.filterMap fun d =>
    let o := c.override d.id
    if o.enabled then some (.site d o.priority o.settings) else none

/-- The indexers that can be searched. -/
def catalog (r : Registry) (c : Config) : List Indexer :=
  let sites := r.sites c
  let taken := sites.map Indexer.id
  sites ++ ((c.endpoints.filter (·.enabled)).filter fun e => !taken.contains e.id).map .endpoint

end Registry

end MetaSearch
