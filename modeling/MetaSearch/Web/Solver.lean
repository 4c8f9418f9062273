import MetaSearch.Datum.Encoded
import MetaSearch.Shape.Scalar
import MetaSearch.Site.Reader
import MetaSearch.Web.Exchange

/-!
# The solver of challenges

A solver is a service that opens a page in a browser and waits until the challenge is gone. It takes a command with
the page's address, and answers with a solution. Whatever goes wrong with the service leaves the challenge unsolved.
-/

namespace MetaSearch

/-- A solver: the address of the service, and how long it may take over a page. -/
structure Solver where
  url : String
  maxTimeout : Int := 60000
  deriving DecidableEq, Repr, Inhabited

/-- A page as the solver saw it. -/
structure Solution where
  status : Int
  body : Datum
  url : Datum
  cookies : List (Datum × Datum)
  userAgent : Datum
  deriving Repr, Inhabited

namespace Solver

/-- A solver under an address, slashes at its end passed over. -/
def ofUrl (url : String) (maxTimeout : Int) : Solver :=
  { url := String.ofList (Text.dropEndWhile (· == '/') url.toList), maxTimeout }

/-- Whether there is a service to ask. -/
def isReachable (s : Solver) : Bool := !s.url.isEmpty

/-- The address of the page that a request is for. Its own query counts only through the parameters. -/
def page (request : Request) : Except String String := do
  let t ← Target.parse request.url
  let t ← if request.params.isEmpty then pure { t with query := none } else t.withForm (parameterFields request.params)
  return t.text

/-- The command for the page at an address. -/
def command (s : Solver) (request : Request) (page : String) : Datum :=
  let isPost := Text.lower request.method == "post"
  .object ([("cmd", .text (if isPost then "request.post" else "request.get")), ("url", .text page),
    ("maxTimeout", .int s.maxTimeout)] ++
      (if isPost then [("postData", .text (Percent.form (parameterFields request.form)))] else []))

/-- What the service answered, as a document; nothing where it failed. -/
def document? (status : Int) (content : List UInt8) : Option Datum :=
  if status < 200 ∨ 300 ≤ status then none else Json.parseBytes? content

/-- The first of two values, unless it holds nothing of note. -/
def either (a b : Datum) : Datum := if a.isTruthy then a else b

/-- The cookies in a list, by their names. -/
def cookies (ds : List Datum) : Except Fault (List (Datum × Datum)) :=
  ds.foldlM (fun found d =>
    match d.get? "name" with
    | none => .ok found
    | some name =>
      if name.isKey then .ok (Datum.insert name ((d.get? "value").getD (.text "")) found)
      else .error .wrongKind) []

/-- The solution in a document. -/
def solution (page : String) (document : Datum) : Except Fault (Option Solution) :=
  let field (d : Datum) (name : String) : Datum := (d.get? name).getD .null
  match field document "solution", (field document "status").text? == some "ok" with
  | .map entries, true => do
    let found := Datum.map entries
    let cookies ← cookies (← Form.itemsOf (field found "cookies"))
    let status ← (either (field found "status") (.int 200)).toInt
    return some
      { status, body := either (field found "response") (.text ""), cookies
        url := either (field found "url") (.text page), userAgent := field found "userAgent" }
  | _, _ => .ok none

/-- The solution of the challenge in front of a page. -/
def solve {σ : Type} (s : Solver) (client : Client σ) (request : Request) :
    ExceptT Fault (StateM σ) (Option Solution) := do
  match page request, Target.parse (s.url ++ "/v1") with
  | .ok page, .ok service =>
    let body := Json.renderWith .tight (s.command request page)
    match ← (client.deliver (Client.maxRedirects + 1) "POST" service.rooted body).run with
    | .error _ => return none
    | .ok (_, received) =>
      match document? received.status received.content with
      | none => return none
      | some document => ExceptT.mk (pure (solution page document))
  | _, _ => throw .deadAddress

end Solver

end MetaSearch
