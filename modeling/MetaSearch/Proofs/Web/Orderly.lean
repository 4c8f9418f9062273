import MetaSearch.Proofs.Search.Asked
import MetaSearch.Proofs.Site.Breaking
import MetaSearch.Proofs.Web.Logged
import Mathlib.Data.List.Basic

/-!
# Odd answers of the solver

A solver answers with a document of any shape.  That there is none, or none that names a solution, leaves the challenge
unsolved.  Where a solution is named its parts are taken one after the other, each for a value of some kind, and a part
of another kind breaks off what is done with it.

`IsOrderly` says of which kinds the parts must be.  Exactly the orderly solutions come to a page (`proper_solution_iff`,
`proper_solve_iff`); with the others a walk along the links of a site ends, while an unsolved challenge only leads on
to the next link (`proper_iff_and_walk`).
-/

namespace MetaSearch

variable {σ : Type}

/-- A value that can be taken for a whole number: a truth value, a finite number, or a text that spells one. -/
def Datum.IsWhole : Datum → Prop
  | .bool _ | .int _ | .float (.finite _ _ _) => True
  | .text s => (Numeral.int? s).isSome
  | _ => False

theorem Datum.exists_toInt_iff {d : Datum} : (∃ n, d.toInt = .ok n) ↔ d.IsWhole := by
  cases d with
  | float x => cases x <;> simp [toInt, IsWhole, Binary64.truncate?]
  | text s => cases h : Numeral.int? s <;> simp [toInt, IsWhole, h]
  | _ => simp [toInt, IsWhole]

namespace Solver

/-- What a document has under a name. -/
def part (d : Datum) (name : String) : Datum :=
  (d.get? name).getD .null

/-- The solution that a document names, where it says that there is one. -/
def claimed? (document : Datum) : Option Datum :=
  match part document "solution" with
  | .map entries => if (part document "status").text? == some "ok" then some (.map entries) else none
  | _ => none

/-- The parts of a solution are of the kinds that they are taken for.  What is not of note, as a zero or an empty list,
stands for a part that is not there. -/
structure IsOrderly (found : Datum) : Prop where
  /-- The cookies can be gone through. -/
  cookies : (part found "cookies").isSingle = false
  /-- A cookie with a name has one that can be a key. -/
  names : ∀ items, Form.itemsOf (part found "cookies") = .ok items →
    ∀ item ∈ items, ∀ name, item.get? "name" = some name → name.isKey = true
  /-- The status is a whole number. -/
  status : (part found "status").isTruthy = true → (part found "status").IsWhole
  /-- The page is a text. -/
  page : (part found "response").isTruthy = true → ∃ body, part found "response" = .text body

/-- A document that names no solution, or an orderly one. -/
def Orderly (document : Datum) : Prop :=
  ∀ found ∈ claimed? document, IsOrderly found

/-- What a solver is to come to: nothing, or a status and a page that is a text. -/
def Proper (answer : Except Fault (Option Solution)) : Prop :=
  ∃ found, answer = .ok found ∧ ∀ solution ∈ found, ∃ body, solution.body = .text body

/-! ## The parts of a solution -/

/-- Cookies come to something exactly where their names can be keys. -/
theorem exists_cookies_iff {items : List Datum} :
    (∃ found, cookies items = .ok found) ↔
      ∀ item ∈ items, ∀ name, item.get? "name" = some name → name.isKey = true := by
  rw [cookies]
  generalize ([] : List (Datum × Datum)) = sofar
  induction items generalizing sofar with
  | nil => simp [pure, Except.pure]
  | cons item items ih =>
      rw [List.foldlM_cons]
      cases hname : item.get? "name" with
      | none => simpa [bind, Except.bind, hname] using ih sofar
      | some name =>
          cases hkey : name.isKey with
          | true => simpa [bind, Except.bind, hname, hkey] using ih _
          | false => simp [bind, Except.bind, hname, hkey]

/-- A part is taken for a whole number exactly where it is one, or not of note. -/
theorem exists_status_iff {d : Datum} :
    (∃ n, (either d (.int 200)).toInt = .ok n) ↔ (d.isTruthy = true → d.IsWhole) := by
  rw [← Datum.exists_toInt_iff, either]
  split
  · simp [*]
  · simp [*, Datum.toInt]

/-- A part is taken for a text exactly where it is one, or not of note. -/
theorem exists_body_iff {d : Datum} :
    (∃ body, either d (.text "") = .text body) ↔ (d.isTruthy = true → ∃ body, d = .text body) := by
  rw [either]
  split
  · simp [*]
  · simp [*]

/-- No solution comes of a document that names none. -/
theorem solution_of_unclaimed {document : Datum} (h : claimed? document = none) (page : String) :
    solution page document = .ok none := by
  rw [claimed?] at h
  cases hsolution : part document "solution" with
  | map entries =>
      cases hstatus : (part document "status").text? == some "ok" with
      | true => simp [hsolution, hstatus] at h
      | false =>
          simp only [part] at hsolution hstatus
          simp only [solution, hsolution, hstatus]
  | _ =>
      simp only [part] at hsolution
      simp only [solution, hsolution]

/-- What comes of a document that names a solution. -/
theorem solution_of_claimed {document found : Datum} (h : claimed? document = some found) (page : String) :
    solution page document = do
      let cookies ← cookies (← Form.itemsOf (part found "cookies"))
      let status ← (either (part found "status") (.int 200)).toInt
      return some
        { status, body := either (part found "response") (.text ""), cookies
          url := either (part found "url") (.text page), userAgent := part found "userAgent" } := by
  rw [claimed?] at h
  cases hsolution : part document "solution" with
  | map entries =>
      cases hstatus : (part document "status").text? == some "ok" with
      | true =>
          obtain rfl : Datum.map entries = found := by simpa [hsolution, hstatus] using h
          simp only [part] at hsolution hstatus
          simp only [solution, hsolution, hstatus]
          rfl
      | false => simp [hsolution, hstatus] at h
  | _ => simp [hsolution] at h

/-- **Exactly the orderly solutions come to a page.** -/
theorem proper_solution_iff {document : Datum} (page : String) :
    Proper (solution page document) ↔ Orderly document := by
  cases hclaimed : claimed? document with
  | none =>
      rw [solution_of_unclaimed hclaimed]
      have horderly : Orderly document := by simp [Orderly, hclaimed]
      exact iff_of_true ⟨none, rfl, by simp⟩ horderly
  | some found =>
      have horderly : Orderly document ↔ IsOrderly found := by simp [Orderly, hclaimed]
      rw [solution_of_claimed hclaimed, horderly]
      constructor
      · rintro ⟨answer, hanswer, hbody⟩
        obtain ⟨items, hitems, hrest⟩ := exists_of_bind_eq_ok hanswer
        obtain ⟨names, hnames, hrest⟩ := exists_of_bind_eq_ok hrest
        obtain ⟨status, hstatus, hrest⟩ := exists_of_bind_eq_ok hrest
        obtain rfl := Except.ok.inj hrest
        refine ⟨?_, ?_, exists_status_iff.mp ⟨status, hstatus⟩, exists_body_iff.mp (hbody _ rfl)⟩
        · rcases Form.itemsOf_cases (part found "cookies") with ⟨-, hnone⟩ | ⟨hsingle, -⟩
          · rw [hnone] at hitems
            cases hitems
          · exact hsingle
        · intro items' hitems'
          obtain rfl := Except.ok.inj (hitems.symm.trans hitems')
          exact exists_cookies_iff.mp ⟨names, hnames⟩
      · intro h
        obtain ⟨items, hitems⟩ : ∃ items, Form.itemsOf (part found "cookies") = .ok items := by
          rcases Form.itemsOf_cases (part found "cookies") with ⟨hsingle, -⟩ | ⟨-, hitems⟩
          · rw [h.cookies] at hsingle
            cases hsingle
          · exact hitems
        obtain ⟨names, hnames⟩ := exists_cookies_iff.mpr (h.names items hitems)
        obtain ⟨status, hstatus⟩ := exists_status_iff.mpr h.status
        obtain ⟨body, hbody⟩ := exists_body_iff.mpr h.page
        refine ⟨some
          { status, body := .text body, cookies := names
            url := either (part found "url") (.text page), userAgent := part found "userAgent" }, ?_, by simp⟩
        simp only [hitems, hnames, hstatus, hbody, bind, Except.bind]
        rfl

/-! ## What the service replies -/

/-- What the service replies in the end when it is asked for a page, as a document; nothing where it does not come to
one. -/
def reply (solver : Solver) (client : Client σ) (request : Request) (page : String) (service : Target) :
    StateM σ (Option Datum) := fun s =>
  match (client.deliver (Client.maxRedirects + 1) "POST" service.rooted
      (Json.renderWith .tight (solver.command request page))).run s with
  | (.ok (_, received), s) => (document? received.status received.content, s)
  | (.error _, s) => (none, s)

section Service

variable {solver : Solver} {client : Client σ} {request : Request} {page : String} {service : Target}
  (hpage : Solver.page request = .ok page) (hservice : Target.parse (solver.url ++ "/v1") = .ok service)

include hpage hservice

/-- A solver takes the reply of its service for a solution; without one the challenge is unsolved. -/
theorem solve_run (s : σ) :
    (solver.solve client request).run s =
      match solver.reply client request page service s with
      | (none, s) => (.ok none, s)
      | (some document, s) => (solution page document, s) := by
  simp only [solve, hpage, hservice, reply]
  rw [liftM_eq_lift, exceptT_run_lift_bind]
  rcases hdeliver : (client.deliver (Client.maxRedirects + 1) "POST" service.rooted
    (Json.renderWith .tight (solver.command request page))).run s with ⟨_ | ⟨t, received⟩, s'⟩
  · rfl
  · dsimp only
    cases document? received.status received.content with
    | none => rfl
    | some document => rfl

/-- **A solver comes to nothing or to a page exactly where its service replies orderly.** -/
theorem proper_solve_iff (s : σ) :
    Proper ((solver.solve client request).run s).1 ↔
      ∀ document ∈ (solver.reply client request page service s).1, Orderly document := by
  rw [solve_run hpage hservice]
  rcases solver.reply client request page service s with ⟨_ | document, t⟩
  · exact iff_of_true ⟨none, rfl, by simp⟩ (by simp)
  · simpa using proper_solution_iff page

/-- The challenge stays unsolved where the reply names no solution. -/
theorem solve_unclaimed {s t : σ} {document? : Option Datum}
    (hreply : solver.reply client request page service s = (document?, t))
    (h : ∀ document ∈ document?, claimed? document = none) : (solver.solve client request).run s = (.ok none, t) := by
  rw [solve_run hpage hservice, hreply]
  cases document? with
  | none => rfl
  | some document =>
      simp only [solution_of_unclaimed (h document rfl)]

/-- Wherever the service replies, the solver leaves the state that the reply left. -/
theorem solve_run_snd {s t : σ} {document? : Option Datum}
    (hreply : solver.reply client request page service s = (document?, t)) :
    ((solver.solve client request).run s).2 = t := by
  rw [solve_run hpage hservice, hreply]
  cases document? <;> rfl

end Service

end Solver

/-! ## A walk past a puzzle -/

namespace Client

/-- What the network makes of a solver's answer. -/
theorem solved_run (client : Client σ) (solver : Solver) (request : Request) (s : σ) :
    (client.solved solver request).run s =
      match (solver.solve client request).run s with
      | (.error f, t) => (.error (.fault f), t)
      | (.ok none, t) => (.ok none, t)
      | (.ok (some solution), t) =>
        match solution.body with
        | .text body => (.ok (some { status := solution.status, body }), t)
        | _ => (.error (.fault .wrongKind), t) := by
  simp only [solved]
  rw [exceptT_run_lift_bind]
  rcases hsolve : (solver.solve client request).run s with ⟨f | _ | solution, t⟩
  · rfl
  · rfl
  · dsimp only
    cases solution.body <;> rfl

/-- What a proper solver comes to comes to the network. -/
theorem solved_proper {client : Client σ} {solver : Solver} {request : Request} {s : σ}
    (h : Solver.Proper ((solver.solve client request).run s).1) :
    ∃ answer, (client.solved solver request).run s = (.ok answer, ((solver.solve client request).run s).2) := by
  rw [solved_run]
  obtain ⟨found, hfound, hbody⟩ := h
  rcases hsolve : (solver.solve client request).run s with ⟨f | _ | solution, t⟩ <;> rw [hsolve] at hfound
  · cases hfound
  · exact ⟨none, rfl⟩
  · obtain rfl := Except.ok.inj hfound
    obtain ⟨body, hbody⟩ := hbody solution rfl
    exact ⟨some { status := solution.status, body }, by simp [hbody]⟩

/-- All else is a fault. -/
theorem solved_improper {client : Client σ} {solver : Solver} {request : Request} {s : σ}
    (h : ¬ Solver.Proper ((solver.solve client request).run s).1) :
    ∃ f, (client.solved solver request).run s = (.error (.fault f), ((solver.solve client request).run s).2) := by
  rw [solved_run]
  rcases hsolve : (solver.solve client request).run s with ⟨f | _ | solution, t⟩ <;> rw [hsolve] at h
  · exact ⟨f, rfl⟩
  · exact absurd ⟨none, rfl, by simp⟩ h
  · cases hbody : solution.body with
    | text body => exact absurd ⟨some solution, rfl, by simp [hbody]⟩ h
    | _ => exact ⟨.wrongKind, by simp [hbody]⟩

end Client

namespace Visit

variable {net : Network σ} {request : Request} {solve : Request → Visit σ (Option Response)} {s t : σ}

/-- A puzzle in place of the page has to be passed. -/
theorem body_of_puzzle {puzzle : Response} (hfetch : (net.fetch request).run s = (.ok puzzle, t))
    (hpuzzle : Challenge.isChallenge puzzle = true) : (body net request).run s = (pass net request).run t := by
  simp only [body]
  rw [exceptT_run_bind, hfetch]
  simp only [hpuzzle, if_true]

/-- Trouble with the solver is trouble with the puzzle. -/
theorem pass_of_error (hsolve : net.solve = some solve) {e : Trouble} (h : (solve request).run s = (.error e, t)) :
    (pass net request).run s = (.error e, t) := by
  simp only [pass, hsolve]
  rw [exceptT_run_bind, h]

/-- A puzzle that is not solved is a setback. -/
theorem pass_of_unsolved (hsolve : net.solve = some solve) (h : (solve request).run s = (.ok none, t)) :
    (pass net request).run s =
      (.error (.setback (.challenged ("challenge unsolved at " ++ request.url))), t) := by
  simp only [pass, hsolve]
  rw [exceptT_run_bind, h]
  rfl

/-- Where the solver meets no trouble there is a page or a setback. -/
theorem pass_ne_fault (hsolve : net.solve = some solve) {answer : Option Response}
    (h : (solve request).run s = (.ok answer, t)) (f : Fault) : ((pass net request).run s).1 ≠ .error (.fault f) := by
  simp only [pass, hsolve]
  rw [exceptT_run_bind, h]
  cases answer with
  | none => rintro ⟨⟩
  | some solved =>
      dsimp only
      split
      · rintro ⟨⟩
      · split
        · rintro ⟨⟩
        · rintro ⟨⟩

/-- A walk stops at a link whose attempt meets a fault, and goes on behind one whose attempt meets a setback. -/
theorem walk_of_body {now : Moment} {d : Definition} {search : PreparedSearch} {timeout : Option Datum} {link : String}
    (hrequest : search.request link timeout = .ok request) {e : Trouble}
    (hbody : (body net request).run s = (.error e, t)) (last : Option Setback) (links : List String) :
    walk (attempt net now d search timeout) last (link :: links) s =
      match e with
      | .fault f => (.faulted f, t)
      | .setback b => walk (attempt net now d search timeout) (some b) links t := by
  have hattempt : attempt net now d search timeout link s = (.error e, t) := by
    change (attempt net now d search timeout link).run s = (.error e, t)
    simp only [attempt, hrequest, orTrouble]
    rw [exceptT_run_bind]
    simp only [settle]
    change (body net request >>= fun body => settle (Answer.rows now d search link body)).run s = _
    rw [exceptT_run_bind, hbody]
  rw [walk_cons, hattempt]
  cases e <;> rfl

end Visit

namespace Solver

/-- A link whose request is answered with a puzzle, where there is a solver to be asked. -/
structure Puzzled (client : Client σ) (solver : Solver) (search : PreparedSearch) (timeout : Option Datum)
    (link : String) (request : Request) (s t : σ) : Prop where
  reachable : solver.isReachable = true
  requested : search.request link timeout = .ok request
  puzzle : ∃ response, (client.fetch request).run s = (.ok response, t) ∧ Challenge.isChallenge response = true

/-- **What the reply of a solver's service means.**  The solver comes to nothing or to a page exactly where the reply is
orderly.  Now let a link be answered with a puzzle.  Where the reply names no solution the link counts as challenged,
and the walk goes on to the next one; where it is orderly the link meets no fault, so that the walk has its page or
goes on; and where it is not, the walk ends with a fault, and no other link is tried. -/
theorem proper_iff_and_walk {solver : Solver} {client : Client σ} {request : Request} {page : String}
    {service : Target} {t u : σ} {reply : Option Datum} (hpage : Solver.page request = .ok page)
    (hservice : Target.parse (solver.url ++ "/v1") = .ok service)
    (hreply : solver.reply client request page service t = (reply, u)) :
    (Proper ((solver.solve client request).run t).1 ↔ ∀ document ∈ reply, Orderly document) ∧
    ∀ search timeout link s, Puzzled client solver search timeout link request s t → ∀ now d,
      ((∀ document ∈ reply, claimed? document = none) → ∀ last links,
        Visit.walk (Visit.attempt (client.network (some solver)) now d search timeout) last (link :: links) s =
          Visit.walk (Visit.attempt (client.network (some solver)) now d search timeout)
            (some (.challenged ("challenge unsolved at " ++ request.url))) links u) ∧
      ((∀ document ∈ reply, Orderly document) → ∀ f,
        ((Visit.body (client.network (some solver)) request).run s).1 ≠ .error (.fault f)) ∧
      ((∃ document ∈ reply, ¬ Orderly document) → ∃ f, ∀ last links,
        Visit.walk (Visit.attempt (client.network (some solver)) now d search timeout) last (link :: links) s =
          (.faulted f, u)) := by
  have hproper : Proper ((solver.solve client request).run t).1 ↔ ∀ document ∈ reply, Orderly document := by
    rw [proper_solve_iff hpage hservice, hreply]
  have hstate : ((solver.solve client request).run t).2 = u := solve_run_snd hpage hservice hreply
  refine ⟨hproper, fun search timeout link s ⟨hreachable, hrequest, puzzle, hfetch, hpuzzle⟩ now d => ?_⟩
  have hsolve : (client.network (some solver)).solve = some (client.solved solver) := by
    simp [Client.network, Option.filter, hreachable]
  have hbody : (Visit.body (client.network (some solver)) request).run s =
      (Visit.pass (client.network (some solver)) request).run t := Visit.body_of_puzzle hfetch hpuzzle
  refine ⟨fun hunclaimed last links => ?_, fun horderly f => ?_, fun ⟨document, hmem, hdisorderly⟩ => ?_⟩
  · have hsolved : (client.solved solver request).run t = (.ok none, u) := by
      rw [Client.solved_run, solve_unclaimed hpage hservice hreply hunclaimed]
    rw [Visit.walk_of_body hrequest (hbody.trans (Visit.pass_of_unsolved hsolve hsolved))]
  · obtain ⟨answer, hsolved⟩ := Client.solved_proper (hproper.mpr horderly)
    rw [hbody]
    exact Visit.pass_ne_fault hsolve hsolved f
  · have himproper : ¬ Proper ((solver.solve client request).run t).1 := fun h =>
      hdisorderly (hproper.mp h document hmem)
    obtain ⟨f, hsolved⟩ := Client.solved_improper himproper
    rw [hstate] at hsolved
    refine ⟨f, fun last links => ?_⟩
    rw [Visit.walk_of_body hrequest (hbody.trans (Visit.pass_of_error hsolve hsolved))]

/-! ## Two links behind puzzles -/

/-- A solver whose service is near. -/
def localSolver : Solver where
  url := "http://solver.example:8191"

/-- A client with puzzles at all sites, and a service that always replies with one text; what is asked is written
down. -/
def puzzling (reply : String) : Client (List String) where
  send m := do
    modify (· ++ [m.url])
    if m.method == "POST" then return .ok { content := Utf8.encode reply.toList }
    else return .ok { status := 403, content := Utf8.encode "Just a moment".toList }

/-- A site with two links. -/
def twoLinks : Definition where
  id := "site"
  name := "Site"
  links := ["https://site.example/", "https://mirror.example/"]
  search := { paths := [{ path := "search" }], rows := { selector := "tr" }, fields := [] }

/-- A search of that site. -/
def anySearch : PreparedSearch where
  path := { path := "search" }
  keywords := "dune"
  queryKeywords := "dune"
  env := {}
  target := "search"

/-- The request of that search under the first link. -/
def firstRequest : Request :=
  (anySearch.request "https://site.example/" none).toOption.getD default

/-- A service that did not get through. -/
def givenUp : String :=
  "\x7b\"status\": \"error\"\x7d"

/-- The service in question. -/
def localService : Target where
  scheme := "http"
  host := "solver.example"
  port := some 8191
  path := "/v1"

/-- What the service replies behind the puzzle of the first link. -/
def firstReply (reply : String) : Option Datum × List String :=
  (localSolver.reply (puzzling reply) firstRequest "https://site.example/search" localService).run
    ["https://site.example/search"]

/-- Where the service did not get through the solver comes to nothing, and the walk goes on behind the first link. -/
theorem proper_iff_and_walk_givenUp :
    Proper ((localSolver.solve (puzzling givenUp) firstRequest).run ["https://site.example/search"]).1 ∧
    ∀ last links,
      Visit.walk (Visit.attempt ((puzzling givenUp).network (some localSolver)) dawn twoLinks anySearch none) last
          ("https://site.example/" :: links) [] =
        Visit.walk (Visit.attempt ((puzzling givenUp).network (some localSolver)) dawn twoLinks anySearch none)
          (some (.challenged "challenge unsolved at https://site.example/search")) links (firstReply givenUp).2 := by
  have hpage : Solver.page firstRequest = .ok "https://site.example/search" := by decide +kernel
  have hservice : Target.parse (localSolver.url ++ "/v1") = .ok localService := by decide +kernel
  have hreply : localSolver.reply (puzzling givenUp) firstRequest "https://site.example/search" localService
      ["https://site.example/search"] = ((firstReply givenUp).1, (firstReply givenUp).2) := rfl
  have hpuzzled : Puzzled (puzzling givenUp) localSolver anySearch none "https://site.example/" firstRequest []
      ["https://site.example/search"] :=
    { reachable := by decide
      requested := eq_ok_of_isOk (by decide +kernel)
      puzzle := ⟨_, Prod.ext (eq_ok_of_isOk (by decide +kernel)) (by decide +kernel), by decide +kernel⟩ }
  have hunclaimed : ∀ document ∈ (firstReply givenUp).1, claimed? document = none := by
    have hnone : ((firstReply givenUp).1.bind claimed?).isNone = true := by decide +kernel
    intro document hdocument
    simpa [Option.mem_def.mp hdocument] using hnone
  have horderly : ∀ document ∈ (firstReply givenUp).1, Orderly document := by
    intro document hdocument
    simp [Orderly, hunclaimed document hdocument]
  obtain ⟨hproper, hwalks⟩ := proper_iff_and_walk hpage hservice hreply
  refine ⟨hproper.mpr horderly, fun last links => ?_⟩
  rw [(hwalks anySearch none "https://site.example/" [] hpuzzled dawn twoLinks).1 hunclaimed]
  have hurl : firstRequest.url = "https://site.example/search" := by decide +kernel
  rw [hurl]
  rfl

/-- A service whose solution has a status that is no number. -/
def misnumbered : String :=
  "\x7b\"status\": \"ok\", \"solution\": \x7b\"status\": \"abc\"\x7d\x7d"

/-- The fault that ends a walk along both links, and what is asked meanwhile. -/
def walked (reply : String) : Option Fault × List String :=
  match (Visit.walk (Visit.attempt ((puzzling reply).network (some localSolver)) dawn twoLinks anySearch none) none
      twoLinks.allLinks).run [] with
  | (.faulted f, urls) => (some f, urls)
  | (_, urls) => (none, urls)

/-- Where the status of a solution is no number the solver breaks off, and the walk ends without a request to the second
link. -/
theorem misnumbered_breaks :
    ((localSolver.solve (puzzling misnumbered) firstRequest).run []).1.toOption.isNone = true ∧
    twoLinks.allLinks = ["https://site.example/", "https://mirror.example/"] ∧
    walked misnumbered =
      (some .notANumber, ["https://site.example/search", "http://solver.example:8191/v1"]) := by
  decide +kernel

end Solver

end MetaSearch
