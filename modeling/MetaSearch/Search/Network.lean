import MetaSearch.Search.Visit
import MetaSearch.Web.Solver

/-!
# Networks over clients

Sites are reached through a client, and a solver through the same client. A breakdown of the connection is a setback
of the attempt; a solved page that is no text ends the visit.
-/

namespace MetaSearch

variable {σ τ : Type}

/-- A client in a state, as a client in a state that holds that one. -/
def Client.inside (client : Client σ) (inner : τ → σ) (put : σ → τ → τ) : Client τ where
  send s := do
    let t ← get
    let (answer, inner) := (client.send s).run (inner t)
    set (put inner t)
    return answer
  followsRedirects := client.followsRedirects

namespace Client

/-- The page that a request leads to. -/
def fetch (client : Client σ) (request : Request) : Visit σ Response := do
  match ← ExceptT.lift (client.exchange request).run with
  | .ok answer => return { status := answer.status, body := answer.text }
  | .error breakdown => throw (breakdown.trouble request.url)

/-- The page that a solver saw, where it saw one. -/
def solved (client : Client σ) (solver : Solver) (request : Request) : Visit σ (Option Response) := do
  match ← ExceptT.lift (solver.solve client request).run with
  | .error f => throw (.fault f)
  | .ok none => return none
  | .ok (some solution) =>
    match solution.body with
    | .text body => return some { status := solution.status, body }
    | _ => throw (.fault .wrongKind)

/-- The network behind a client, with a solver where there is one to ask. -/
def network (client : Client σ) (solver : Option Solver) : Network σ where
  fetch := client.fetch
  solve := (solver.filter Solver.isReachable).map client.solved

end Client

end MetaSearch
