import MetaSearch.Address.Target
import MetaSearch.Datum.Printed
import MetaSearch.Search.Setback
import MetaSearch.Web.Charset
import MetaSearch.Web.Message

/-!
# Exchanges

A request is put on the wire as a method, an address and a body, and what comes back are a status, headers and
bytes. `Client.exchange` adds what lies between: parameters take the place of the address's query, redirections are
followed where that is wanted, and the bytes are read in the answer's character set.
-/

namespace MetaSearch

/-- What is put on the wire. -/
structure Sent where
  method : String
  url : String
  body : String := ""
  deriving DecidableEq, Repr, Inhabited

/-- What comes back. -/
structure Received where
  status : Int := 200
  headers : List (String × String) := []
  content : List UInt8 := []
  deriving DecidableEq, Repr, Inhabited

/-- The value of a header, whatever the case of its name; values of one name are joined. -/
def Received.header? (r : Received) (name : String) : Option String :=
  match r.headers.filter fun (n, _) => Text.lower n == name with
  | [] => none
  | found => some (", ".intercalate (found.map (·.2)))

/-- Why nothing comes back. -/
inductive Breakdown where
  /-- It took too long; the name is that of the limit that was passed. -/
  | late (name : String)
  /-- The connection failed. -/
  | cut (message : String)
  /-- The address does not say how it is reached. -/
  | unsupported (message : String)
  /-- The address is none. -/
  | misaddressed (message : String)
  | fault (f : Fault)
  deriving DecidableEq, Repr, Inhabited

/-- A way to put requests on the wire, and whether redirections are followed. -/
structure Client (σ : Type) where
  send : Sent → StateM σ (Except Breakdown Received)
  followsRedirects : Bool := false

/-- An action with a client in a state. -/
abbrev Exchange (σ : Type) := ExceptT Breakdown (StateM σ)

/-- A page, as it was read. -/
structure Answer where
  status : Int
  text : String
  url : String
  headers : List (String × String) := []
  deriving DecidableEq, Repr, Inhabited

/-- The text of a value in a parameter or a form. -/
def parameterText : Datum → String
  | .null => ""
  | .bool b => if b then "true" else "false"
  | d => d.printed

/-- Parameters as fields; a list gives a field for each of its items. -/
def parameterFields (params : List (String × Datum)) : List (String × String) :=
  params.flatMap fun (name, value) =>
    match value with
    | .list values => values.map fun v => (name, parameterText v)
    | value => [(name, parameterText value)]

/-- The address that a request is sent to, or what is wrong with it. -/
def Request.target (r : Request) : Except String Target := do
  let t := (← Target.parse r.url).rooted
  if r.params.isEmpty then return t else t.withForm (parameterFields r.params)

namespace Client

variable {σ : Type}

/-- How often a request may be redirected. -/
def maxRedirects : Nat := 20

/-- The statuses of redirections. -/
def redirectStatuses : List Int := [301, 302, 303, 307, 308]

/-- The method of the request that follows a redirection. -/
def redirectedMethod (method : String) (status : Int) : String :=
  if (status = 302 ∨ status = 303) ∧ method ≠ "HEAD" then "GET"
  else if status = 301 ∧ method = "POST" then "GET"
  else method

/-- What is sent after a redirection, where an answer is one. -/
def redirected? (method : String) (t : Target) (body : String) (r : Received) :
    Except Breakdown (Option (String × Target × String)) :=
  match if redirectStatuses.contains r.status then r.header? "location" else none with
  | none => .ok none
  | some location =>
    match t.follow location with
    | .error reason => .error (.cut ("Invalid URL in location header: " ++ reason ++ "."))
    | .ok next =>
      let method' := redirectedMethod method r.status
      .ok (some (method', next, if method' ≠ method ∧ method' = "GET" then "" else body))

/-- What comes back in the end, and from where. -/
def deliver (client : Client σ) : (left : Nat) → (method : String) → Target → (body : String) →
    Exchange σ (Target × Received)
  | 0, _, _, _ => throw (.fault .crash)
  | left + 1, method, t, body => do
    let r ← ExceptT.mk (client.send { method, url := t.text, body })
    match redirected? method t body r with
    | .error e => throw e
    | .ok none => return (t, r)
    | .ok (some (method, next, body)) =>
      if client.followsRedirects then deliver client left method next body else return (t, r)

/-- The text of an answer, in its own character set or else in the one given. -/
def textOf (r : Received) (fallback : Option String) : Except Breakdown String :=
  let named := (r.header? "content-type").bind charsetName?
  let charset : Except Breakdown Charset :=
    match named, fallback.filter fun s => !s.isEmpty with
    | none, some name =>
      match Charset.ofName? name with
      | some c => .ok c
      | none => if r.content.isEmpty then .ok .utf8 else .error (.fault .unknownCharset)
    | named, _ => .ok ((named.bind Charset.ofName?).getD .utf8)
  charset.map fun c => c.decode r.content

/-- What can be said without the wire. -/
def settle {α : Type} (x : Except Breakdown α) : Exchange σ α :=
  ExceptT.mk (pure x)

/-- The page that a request leads to. -/
def exchange (client : Client σ) (request : Request) : Exchange σ Answer := do
  let t ← settle (request.target.mapError .misaddressed)
  if request.headers.any fun (_, value) => value.toList.any fun c => 128 ≤ c.toNat then
    throw (.fault .notAscii)
  let form := Percent.form (parameterFields request.form)
  let (t, r) ← client.deliver (maxRedirects + 1) (Text.upper request.method) t form
  let text ← settle (textOf r request.encoding)
  return { status := r.status, text, url := t.text, headers := r.headers }

end Client

/-- What a breakdown means for a search. -/
def Breakdown.trouble (url : String) : Breakdown → Trouble
  | late name => .setback (.unreachable ("timeout fetching " ++ url ++ " (" ++ name ++ ")"))
  | cut message | unsupported message | misaddressed message =>
    .setback (.unreachable ("transport error fetching " ++ url ++ ": " ++ message))
  | fault f => .fault f

end MetaSearch
