import MetaSearch.Proofs.Address.Parsed
import MetaSearch.Proofs.Web.Logged

/-!
# The page that the solver is asked for

When a puzzle is in the way of a request, the solver is asked for a page, and the address of that page is put together
anew from the request.  The parameters of a request take the place of the query of its address in both, but a request
without parameters keeps the query of its address while the solver is asked for a page without any.

`Solver.page_fetched_iff` says when the page that the solver is asked for is the one that was fetched: exactly when the
request has parameters or its address has no query, and the address is not made absolute on the way.
-/

namespace MetaSearch

variable {σ : Type}

namespace Solver

/-- What a fetch and the solver make of one address. -/
theorem target_and_page {request : Request} {t : Target} (ht : Target.parse request.url = .ok t)
    (hform : (Percent.form (parameterFields request.params)).length ≤ Target.maxLength) :
    ∃ q q', request.target = .ok { t.rooted with query := q } ∧
      page request = .ok ({ t with query := q' } : Target).text ∧ (q = q' ∨ q' = none) ∧
      (q = q' ↔ request.params ≠ [] ∨ t.query = none) := by
  have hshort : ¬ Target.maxLength < (Percent.form (parameterFields request.params)).length := by omega
  by_cases hparams : request.params = []
  · have hempty : request.params.isEmpty = true := by simp [hparams]
    have hquery : t.rooted.query = t.query := by
      rw [Target.rooted]
      split <;> rfl
    refine ⟨t.query, none, ?_, ?_, .inr rfl, by simp [hparams]⟩
    · simp only [Request.target, ht, hempty, bind, Except.bind, if_true, ← hquery]
      rfl
    · simp only [page, ht, hempty, bind, Except.bind, if_true]
      rfl
  · have hsome : request.params.isEmpty = false := by simpa using hparams
    refine ⟨some (Percent.form (parameterFields request.params)), some (Percent.form (parameterFields request.params)),
      ?_, ?_, .inl rfl, by simp [hparams]⟩
    · simp only [Request.target, ht, hsome, bind, Except.bind, Target.withForm, hshort, if_false, Bool.false_eq_true]
    · simp only [page, ht, hsome, bind, Except.bind, Target.withForm, hshort, if_false, Bool.false_eq_true]
      rfl

/-- The address in a command. -/
theorem get?_command (solver : Solver) (request : Request) (page : String) :
    (solver.command request page).get? "url" = some (.text page) := by
  simp only [command]
  split <;> rfl

/-- **The first message of a solver is its command.** -/
theorem solve_sends (solver : Solver) (client : Client σ) {request : Request} {page : String} {service : Target}
    (hpage : Solver.page request = .ok page) (hservice : Target.parse (solver.url ++ "/v1") = .ok service) :
    Sends { method := "POST", url := service.rooted.text, body := Json.renderWith .tight (solver.command request page) }
      (solver.solve client.logged request) := by
  simp only [solve, hpage, hservice]
  refine ((Client.deliver_logs client (Client.maxRedirects + 1) "POST" service.rooted _).2 (by decide)).lift.bind
    fun answer => ?_
  split
  · exact Logs.ofExcept (.ok none)
  · split
    · exact Logs.ofExcept (.ok none)
    · exact Logs.ofExcept _

/-- **When the solver is asked for the page that was fetched.**  A request with an address that can be read is fetched
under its target, and the solver is asked, under the address of its service, for a page.  The two are one address
exactly when the request has parameters or its address has no query, and its address is the same from the root. -/
theorem page_fetched_iff (client : Client σ) (solver : Solver) {request : Request} {t service : Target}
    (ht : Target.parse request.url = .ok t)
    (hform : (Percent.form (parameterFields request.params)).length ≤ Target.maxLength)
    (hheaders : ∀ field ∈ request.headers, ∀ c ∈ field.2.toList, c.toNat < 128)
    (hservice : Target.parse (solver.url ++ "/v1") = .ok service) (s : σ) :
    ∃ fetched asked page, ((client.logged.fetch request).run (s, [])).2.2.head? = some fetched ∧
      ((solver.solve client.logged request).run (s, [])).2.2.head? = some asked ∧
      asked.method = "POST" ∧ asked.url = service.rooted.text ∧
      asked.body = Json.renderWith .tight (solver.command request page) ∧
      (solver.command request page).get? "url" = some (.text page) ∧
      (page = fetched.url ↔ (request.params ≠ [] ∨ t.query = none) ∧ t.rooted = t) := by
  obtain ⟨q, q', htarget, hpage, hqueries, hsame⟩ := target_and_page ht hform
  refine ⟨_, _, _, (Client.fetch_sends client htarget hheaders).head? s,
    (solve_sends solver client hpage hservice).head? s, rfl, rfl, rfl, get?_command solver request _, ?_⟩
  rw [← hsame, eq_comm]
  exact Target.text_rooted_eq_iff (Target.head?_scheme ht) hqueries

/-! ## A blocked page -/

/-- A service that solves puzzles. -/
def nearbySolver : Solver where
  url := "http://solver.example:8191"

/-- A page whose query is a parameter. -/
def parameterRequest : Request where
  url := "https://site.example/search"
  params := [("a", .text "1")]

/-- A page whose query stands in its address. -/
def queryRequest : Request where
  url := "https://site.example/search?a=1"

/-- With its query for a parameter the solver is asked for the page that was fetched. -/
theorem page_fetched_parameter : ∃ fetched asked page,
    ((Client.silent.logged.fetch parameterRequest).run ((), [])).2.2.head? = some fetched ∧
    ((nearbySolver.solve Client.silent.logged parameterRequest).run ((), [])).2.2.head? = some asked ∧
    asked.body = Json.renderWith .tight (nearbySolver.command parameterRequest page) ∧ page = fetched.url := by
  have ht : Target.parse parameterRequest.url =
      .ok { scheme := "https", host := "site.example", path := "/search" } := by
    decide +kernel
  have hservice : Target.parse (nearbySolver.url ++ "/v1") =
      .ok { scheme := "http", host := "solver.example", port := some 8191, path := "/v1" } := by
    decide +kernel
  obtain ⟨fetched, asked, page, hfetched, hasked, -, -, hbody, -, hsame⟩ :=
    page_fetched_iff Client.silent nearbySolver ht (by decide +kernel) (by simp [parameterRequest]) hservice ()
  exact ⟨fetched, asked, page, hfetched, hasked, hbody, hsame.mpr ⟨.inl (by simp [parameterRequest]), by decide⟩⟩

/-- With its query in the address the page is fetched, and the solver is asked for another one. -/
theorem page_not_fetched :
    ((Client.silent.logged.fetch queryRequest).run ((), [])).2.2.map Sent.url = ["https://site.example/search?a=1"] ∧
    ((nearbySolver.solve Client.silent.logged queryRequest).run ((), [])).2.2.map (fun m =>
      ((Json.parse? m.body).bind (·.get? "url")).bind Datum.text?) = [some "https://site.example/search"] := by
  decide +kernel

end Solver

end MetaSearch
