import MetaSearch.Search.Answer
import MetaSearch.Search.Challenge
import MetaSearch.Search.Outcome

/-!
# Visiting a site

A site has several links. They are tried in order until one answers; a challenge in the way is handed to a solver
where there is one. A setback leads to the next link, a fault ends the visit, and the last setback is what is
reported when no link is left. `walk_cons` gives one step of the walk.
-/

namespace MetaSearch

/-- An action on a network in a state, which may meet trouble. -/
abbrev Visit (σ : Type) := ExceptT Trouble (StateM σ)

/-- What sites and the solver of challenges do when they are asked. -/
structure Network (σ : Type) where
  fetch : Request → Visit σ Response
  /-- The page behind a challenge, where the solver gets there. Without a solver there is no way. -/
  solve : Option (Request → Visit σ (Option Response)) := none

/-- How a walk along links ended. -/
inductive Walked (α : Type) where
  /-- A link led to this. -/
  | arrived (a : α)
  /-- No link is left; the last setback is given. -/
  | exhausted (last : Option Setback)
  /-- A fault ended it. -/
  | faulted (f : Fault)
  deriving Repr

namespace Visit

variable {σ α : Type}

/-- An action that meets a setback. -/
def stop (s : Setback) : Visit σ α :=
  throw (.setback s)

/-- What can be said without the network. -/
def settle (x : Except Trouble α) : Visit σ α :=
  ExceptT.mk (pure x)

/-- Links tried in order until one attempt meets no setback; `last` is the setback before. -/
def walk (attempt : String → Visit σ α) (last : Option Setback) : List String → StateM σ (Walked α)
  | [] => pure (.exhausted last)
  | link :: links => do
    match ← (attempt link).run with
    | .ok a => pure (.arrived a)
    | .error (.fault f) => pure (.faulted f)
    | .error (.setback s) => walk attempt (some s) links

/-- The setback of an answer with a status that refuses the request. -/
def refusal (status : Int) (source : String) : Setback :=
  .unreachable ("HTTP " ++ Datum.intText status ++ " from " ++ source)

/-- The body behind a challenge. -/
def pass (net : Network σ) (request : Request) : Visit σ String := do
  match net.solve with
  | none => stop (.challenged ("challenge page at " ++ request.url))
  | some solve =>
    match ← solve request with
    | none => stop (.challenged ("challenge unsolved at " ++ request.url))
    | some solved =>
      if Challenge.isChallenge solved then
        stop (.challenged ("solver returned a challenge page for " ++ request.url))
      else if solved.status ≥ 400 then stop (refusal solved.status ("solver for " ++ request.url))
      else return solved.body

/-- The body that a request leads to. -/
def body (net : Network σ) (request : Request) : Visit σ String := do
  let response ← net.fetch request
  if Challenge.isChallenge response then pass net request
  else if response.status ≥ 400 then stop (refusal response.status request.url)
  else return response.body

/-- The rows that a search of a site finds under a link. -/
def attempt (net : Network σ) (now : Moment) (d : Definition) (search : PreparedSearch)
    (timeout : Option Datum) (link : String) : Visit σ (List Row) := do
  let request ← settle (orTrouble (search.request link timeout))
  let body ← body net request
  settle (Answer.rows now d search link body)

end Visit

/-- The releases that rows describe. -/
def releasesOf (rows : List Row) (profile : SiteProfile) (now : Moment) : Except Fault (List Release) := do
  return (← rows.mapM fun row => row.release? profile now).filterMap id

namespace Definition

/-- What became of a walk along the links of a site. -/
def outcome (d : Definition) (profile : SiteProfile) (now : Moment) (walked : Walked (List Row)) : Outcome :=
  let failed (f : Failure) : Outcome := { indexerId := d.id, indexerName := d.name, failure := some f }
  match walked with
  | .arrived rows =>
    match releasesOf rows profile now with
    | .ok releases => { indexerId := d.id, indexerName := d.name, releases }
    | .error _ => failed { kind := .internal }
  | .exhausted last =>
    failed { kind := .ofLast last, message := (last.map Setback.message).getD "no links to try"
             attempts := d.allLinks.length }
  | .faulted _ => failed { kind := .internal }

/-- A search of a site. -/
def visit {σ : Type} (d : Definition) (net : Network σ) (now : Moment) (query : Query)
    (settings : List (String × Datum)) (timeout : Option Datum) (profile : SiteProfile) :
    StateM σ Outcome := do
  match prepare now d query settings with
  | .error _ =>
    return { indexerId := d.id, indexerName := d.name, failure := some { kind := .internal } }
  | .ok search =>
    return d.outcome profile now (← Visit.walk (Visit.attempt net now d search timeout) none d.allLinks)

end Definition

namespace Visit

theorem walk_cons {σ α : Type} (attempt : String → Visit σ α) (last : Option Setback) (link : String)
    (links : List String) (s : σ) :
    walk attempt last (link :: links) s =
      match attempt link s with
      | (.ok a, s) => (.arrived a, s)
      | (.error (.fault f), s) => (.faulted f, s)
      | (.error (.setback b), s) => walk attempt (some b) links s := by
  conv => lhs; unfold walk
  simp only [ExceptT.run, bind, StateT.bind]
  rcases attempt link s with ⟨r, s'⟩
  rcases r with e | a
  · rcases e with b | f <;> rfl
  · rfl

end Visit

end MetaSearch
