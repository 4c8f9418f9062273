import MetaSearch.Address.Target
import MetaSearch.Search.Aggregate
import MetaSearch.Search.Catalog
import MetaSearch.Search.Network
import MetaSearch.Service.Document
import MetaSearch.Service.Question

/-!
# The service

What runs: a configuration, the definitions that were loaded last, the outcomes that are kept, and the network in
whatever state it is. The service answers calls over the web. Each call sees the definitions as they were when it
came, and loading them anew replaces all of them or none.
-/

namespace MetaSearch

/-- The service in a state. -/
structure Service (σ : Type) where
  config : Config
  registry : Registry
  store : Cache.Store Merged
  network : σ

/-- What the service answers. -/
inductive ServiceAnswer where
  | results (page : ResultPage)
  | indexers (infos : List IndexerInfo) (counts : RegistryCounts)
  | categories
  | report (r : Registry)
  | health (definitions : Nat)
  /-- The question makes no sense, as the message says. -/
  | wrong (message : String)
  /-- A field of the question does not hold what it should. -/
  | unfit
  /-- There is nothing at the address. -/
  | absent
  /-- What is at the address is not called with this method. -/
  | notAllowed
  /-- Something broke. -/
  | broken
  deriving Repr

namespace ServiceAnswer

/-- The status of an answer. -/
def status : ServiceAnswer → Int
  | wrong _ => 400
  | absent => 404
  | notAllowed => 405
  | unfit => 422
  | broken => 500
  | _ => 200

/-- What an answer shows; nothing where only the status counts. -/
def document? : ServiceAnswer → Option Datum
  | results page => some page.document
  | indexers infos counts => some (indexersDocument infos counts)
  | categories => some (.list (Category.all.map Category.document))
  | report r => some r.report
  | health definitions => some (.object [("status", .text "ok"), ("definitions", .int definitions)])
  | wrong message => some (.object [("error", .text message)])
  | absent => some (.object [("detail", .text "Not Found")])
  | notAllowed => some (.object [("detail", .text "Method Not Allowed")])
  | unfit | broken => none

end ServiceAnswer

/-- A call of the service. -/
structure Call where
  method : String
  path : String
  fields : Question.Fields := []
  deriving DecidableEq, Repr, Inhabited

/-- The call of an address without its host; none where the address makes no sense. -/
def Call.ofAddress? (method address : String) : Option Call :=
  match Target.parse ("http://localhost" ++ address) with
  | .error _ => none
  | .ok t => some { method, path := Percent.decode t.path, fields := Percent.fields (t.query.getD "") }

/-- What can be called. -/
inductive Route where
  | search | indexers | categories | reload | health
  deriving DecidableEq, Repr, Inhabited

/-- The paths of what can be called, each with its method. -/
def Route.table : List (String × String × Route) :=
  [("/api/v1/search", "GET", .search), ("/api/v1/indexers", "GET", .indexers),
   ("/api/v1/categories", "GET", .categories), ("/api/v1/definitions/reload", "POST", .reload),
   ("/healthz", "GET", .health)]

namespace Service

variable {σ : Type}

/-- The service as it starts: with all definitions loaded and a cache ready for use. -/
def start (config : Config) (files : List SourceFile) (network : σ) : Except Fault (Service σ) := do
  if config.userAgent.toList.any fun c => 128 ≤ c.toNat then throw .notAscii
  let registry ← Registry.ofFiles files
  let store := Cache.Store.ofBackend config.cache.backend config.cache.lifetime config.cache.capacity.toNat
  return { config, registry, store := store.opened, network }

/-- The outcomes that the service keeps, as a cache. -/
def keeping (clock : Int) : MergedCache (Service σ) where
  read key := do
    let s ← get
    let (kept, store) := s.store.get key clock
    set { s with store }
    return kept.map fun m => m.map .merged
  write key m lifetime := do
    let s ← get
    match s.store.set key m (some lifetime) clock with
    | .ok store =>
      set { s with store }
      return .ok ()
    | .error f => return .error f

/-- How the service puts searches together. -/
def aggregator (config : Config) (clock : Int) : Aggregator (Service σ) :=
  { cache := some (keeping clock), lifetime := config.cache.lifetime, deadline := config.search.deadline
    forwards := config.search.forwards, maxLimit := config.search.maxLimit }

/-- The solver that is configured. -/
def solver (config : Config) : Option Solver :=
  if config.solver.enabled then some (.ofUrl config.solver.url config.solver.patience) else none

/-- What the service searches. -/
def searchers (s : Service σ) (client : Client σ) (now : Moment) : List (Searcher (Service σ)) :=
  let client := client.inside Service.network fun network (s : Service σ) => { s with network }
  let net := client.network (solver s.config)
  let timeout := some (Datum.float s.config.requestTimeout)
  (s.registry.catalog s.config).map fun i => i.searcher net now timeout fun _ => ""

/-- An answer to a question. -/
def search (client : Client σ) (now : Moment) (clock : Int) (fields : Question.Fields) :
    StateM (Service σ) ServiceAnswer := do
  let s ← get
  match Question.form fields s.config.search.defaultLimit with
  | .error .field => return .unfit
  | .error (.category text) => return .wrong (Question.categoryMessage text)
  | .ok form =>
    match ← (aggregator s.config clock).search (s.searchers client now) form with
    | .ok page => return .results page
    | .error e => return .wrong e.message

/-- What a route answers. -/
def answer (client : Client σ) (now : Moment) (clock : Int) (files : List SourceFile) (fields : Question.Fields)
    (route : Route) : StateM (Service σ) ServiceAnswer := do
  let s ← get
  match route with
  | .search => search client now clock fields
  | .indexers =>
    match (s.registry.catalog s.config).mapM Indexer.info with
    | .ok infos => return .indexers infos s.registry.counts
    | .error _ => return .broken
  | .categories => return .categories
  | .reload =>
    match Registry.ofFiles files with
    | .ok registry =>
      set { s with registry }
      return .report registry
    | .error _ => return .broken
  | .health => return .health s.registry.definitions.length

/-- A call answered; `files` are those that loading the definitions anew would read. -/
def call (client : Client σ) (now : Moment) (clock : Int) (files : List SourceFile) (c : Call) :
    StateM (Service σ) ServiceAnswer := do
  match Route.table.filter (·.1 == c.path) with
  | [] => return .absent
  | found =>
    match found.find? (·.2.1 == c.method) with
    | some (_, _, route) => answer client now clock files c.fields route
    | none => return .notAllowed

end Service

end MetaSearch
