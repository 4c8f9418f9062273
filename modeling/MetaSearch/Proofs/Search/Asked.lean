import MetaSearch.Search.Visit

/-!
# What a network is asked

A network can be made to write down what it is asked and what it replies, without any other difference: `Notes` says of
an action on the recorded network that it does what the action does, and what is written down meanwhile.

`Reached` lists the ways on which a request leads to a body or to trouble, with all that is asked on the way.  The
solver is asked in four of them, once in each, and in all of these a puzzle came first (`Reached.countP_isSolve`).
-/

namespace MetaSearch

variable {σ ε α β : Type}

/-- What a network was asked, with its reply. -/
inductive Asked where
  | fetch (request : Request) (reply : Except Trouble Response)
  | solve (request : Request) (reply : Except Trouble (Option Response))

namespace Asked

/-- The request, where a site was asked. -/
def fetched? : Asked → Option Request
  | fetch request _ => some request
  | solve _ _ => none

/-- Whether the solver was asked. -/
def isSolve : Asked → Bool
  | fetch _ _ => false
  | solve _ _ => true

/-- Whether a site was asked and replied with a puzzle. -/
def isPuzzle : Asked → Bool
  | fetch _ (.ok response) => Challenge.isChallenge response
  | _ => false

end Asked

/-- Two actions in a row that may fail. -/
theorem exceptT_run_bind (act : ExceptT ε (StateM σ) α) (next : α → ExceptT ε (StateM σ) β) (s : σ) :
    (act >>= next).run s =
      match act.run s with
      | (.ok a, s) => (next a).run s
      | (.error e, s) => (.error e, s) := by
  change (match act s with | (a, s) => ExceptT.bindCont next a s) = match act s with
    | (.ok a, s) => (next a).run s
    | (.error e, s) => (.error e, s)
  rcases act s with ⟨e | a, t⟩ <;> rfl

theorem liftM_eq_lift (act : StateM σ α) : (liftM act : ExceptT ε (StateM σ) α) = ExceptT.lift act :=
  rfl

/-- An action that cannot fail, and one behind it that may. -/
theorem exceptT_run_lift_bind (act : StateM σ α) (next : α → ExceptT ε (StateM σ) β) (s : σ) :
    (ExceptT.lift act >>= next).run s = (next (act s).1).run (act s).2 :=
  rfl

/-- An action that is written down with its reply. -/
def recording (note : Except Trouble α → Asked) (act : Visit σ α) : Visit (σ × List Asked) α :=
  ExceptT.mk fun (s, asked) =>
    let (reply, s) := act.run s
    (reply, (s, asked ++ [note reply]))

/-- The network that writes down what it is asked. -/
def Network.recorded (net : Network σ) : Network (σ × List Asked) where
  fetch request := recording (.fetch request) (net.fetch request)
  solve := net.solve.map fun solve request => recording (.solve request) (solve request)

/-- One action does what the other does, and what it writes down meanwhile fits the reply. -/
def Notes (recorded : Visit (σ × List Asked) α) (act : Visit σ α) (P : List Asked → Except Trouble α → Prop) : Prop :=
  ∀ s asked, ∃ more, recorded.run (s, asked) = ((act.run s).1, ((act.run s).2, asked ++ more)) ∧ P more (act.run s).1

namespace Notes

/-- What is asked of the recorded network is written down. -/
theorem recording (note : Except Trouble α → Asked) (act : Visit σ α) :
    Notes (recording note act) act fun asked reply => asked = [note reply] := by
  intro s asked
  exact ⟨[note (act.run s).1], rfl, rfl⟩

/-- Nothing is written down where nothing is asked. -/
theorem settle {x : Except Trouble α} {P : List Asked → Except Trouble α → Prop} (h : P [] x) :
    Notes (Visit.settle x) (Visit.settle x : Visit σ α) P := by
  intro s asked
  exact ⟨[], by rw [List.append_nil]; rfl, h⟩

theorem mono {recorded : Visit (σ × List Asked) α} {act : Visit σ α} {P Q : List Asked → Except Trouble α → Prop}
    (h : Notes recorded act P) (hPQ : ∀ asked reply, P asked reply → Q asked reply) : Notes recorded act Q := by
  intro s asked
  obtain ⟨more, hrun, hP⟩ := h s asked
  exact ⟨more, hrun, hPQ _ _ hP⟩

/-- Of two actions in a row the second is taken where the first meets no trouble, and what it asks is written down
behind what the first one asks. -/
theorem bind {recorded : Visit (σ × List Asked) α} {act : Visit σ α} {P : List Asked → Except Trouble α → Prop}
    {recorded' : α → Visit (σ × List Asked) β} {act' : α → Visit σ β}
    {Q : α → List Asked → Except Trouble β → Prop} {R : List Asked → Except Trouble β → Prop}
    (h : Notes recorded act P) (h' : ∀ a, Notes (recorded' a) (act' a) (Q a))
    (hbroken : ∀ asked e, P asked (.error e) → R asked (.error e))
    (hgone : ∀ first a second reply, P first (.ok a) → Q a second reply → R (first ++ second) reply) :
    Notes (recorded >>= recorded') (act >>= act') R := by
  intro s asked
  obtain ⟨first, hfirst, hP⟩ := h s asked
  rw [exceptT_run_bind, exceptT_run_bind, hfirst]
  cases hreply : act.run s with
  | mk reply t =>
      rw [hreply] at hP
      cases reply with
      | error e => exact ⟨first, rfl, hbroken _ _ hP⟩
      | ok a =>
          obtain ⟨second, hsecond, hQ⟩ := h' a t (asked ++ first)
          refine ⟨first ++ second, ?_, hgone _ _ _ _ hP hQ⟩
          rw [← List.append_assoc]
          exact hsecond

end Notes

/-! ## From a request to a body -/

/-- The ways on which a request leads to a body or to trouble. -/
inductive Reached (net : Network σ) (request : Request) : List Asked → Except Trouble String → Prop
  /-- There is no answer. -/
  | broken (e : Trouble) : Reached net request [.fetch request (.error e)] (.error e)
  /-- The answer refuses the request. -/
  | refused (r : Response) (hplain : Challenge.isChallenge r = false) (hstatus : r.status ≥ 400) :
      Reached net request [.fetch request (.ok r)] (.error (.setback (Visit.refusal r.status request.url)))
  /-- The answer is a page. -/
  | read (r : Response) (hplain : Challenge.isChallenge r = false) (hstatus : ¬ r.status ≥ 400) :
      Reached net request [.fetch request (.ok r)] (.ok r.body)
  /-- The answer is a puzzle, and there is no solver. -/
  | blocked (r : Response) (hpuzzle : Challenge.isChallenge r = true) (hsolve : net.solve = none) :
      Reached net request [.fetch request (.ok r)]
        (.error (.setback (.challenged ("challenge page at " ++ request.url))))
  /-- The answer is a puzzle, and the solver breaks off. -/
  | solverBroken (r : Response) (e : Trouble) (hpuzzle : Challenge.isChallenge r = true)
      (hsolve : net.solve.isSome) :
      Reached net request [.fetch request (.ok r), .solve request (.error e)] (.error e)
  /-- The answer is a puzzle that is not solved. -/
  | unsolved (r : Response) (hpuzzle : Challenge.isChallenge r = true) (hsolve : net.solve.isSome) :
      Reached net request [.fetch request (.ok r), .solve request (.ok none)]
        (.error (.setback (.challenged ("challenge unsolved at " ++ request.url))))
  /-- The answer is a puzzle, and behind it there is another. -/
  | puzzledAgain (r r' : Response) (hpuzzle : Challenge.isChallenge r = true) (hsolve : net.solve.isSome)
      (hagain : Challenge.isChallenge r' = true) :
      Reached net request [.fetch request (.ok r), .solve request (.ok (some r'))]
        (.error (.setback (.challenged ("solver returned a challenge page for " ++ request.url))))
  /-- The answer is a puzzle, and what is behind it refuses the request. -/
  | solverRefused (r r' : Response) (hpuzzle : Challenge.isChallenge r = true) (hsolve : net.solve.isSome)
      (hplain : Challenge.isChallenge r' = false) (hstatus : r'.status ≥ 400) :
      Reached net request [.fetch request (.ok r), .solve request (.ok (some r'))]
        (.error (.setback (Visit.refusal r'.status ("solver for " ++ request.url))))
  /-- The answer is a puzzle, and behind it there is a page. -/
  | passed (r r' : Response) (hpuzzle : Challenge.isChallenge r = true) (hsolve : net.solve.isSome)
      (hplain : Challenge.isChallenge r' = false) (hstatus : ¬ r'.status ≥ 400) :
      Reached net request [.fetch request (.ok r), .solve request (.ok (some r'))] (.ok r'.body)

namespace Reached

variable {net : Network σ} {request : Request} {asked : List Asked} {reply : Except Trouble String}

/-- A request is put to the site once. -/
theorem fetched (h : Reached net request asked reply) : asked.filterMap Asked.fetched? = [request] := by
  cases h <;> rfl

/-- The solver is asked where there is one and the site replies with a puzzle, and then once. -/
theorem countP_isSolve (h : Reached net request asked reply) :
    asked.countP Asked.isSolve = if net.solve.isSome ∧ asked.any Asked.isPuzzle then 1 else 0 := by
  cases h <;> simp_all [Asked.isSolve, Asked.isPuzzle]

end Reached

/-- What the solver is asked for behind a puzzle, and what comes of it. -/
theorem Notes.pass (net : Network σ) (request : Request) :
    Notes (Visit.pass net.recorded request) (Visit.pass net request) fun asked reply =>
      ∀ r, Challenge.isChallenge r = true → Reached net request (.fetch request (.ok r) :: asked) reply := by
  cases hsolve : net.solve with
  | none =>
      have hrecorded : net.recorded.solve = none := by simp [Network.recorded, hsolve]
      simp only [Visit.pass, hsolve, hrecorded]
      exact Notes.settle fun r hpuzzle => .blocked r hpuzzle hsolve
  | some solve =>
      have hrecorded : net.recorded.solve =
          some fun request => MetaSearch.recording (.solve request) (solve request) := by
        simp [Network.recorded, hsolve]
      have hsome : net.solve.isSome := by simp [hsolve]
      simp only [Visit.pass, hsolve, hrecorded]
      refine (Notes.recording _ _).bind (Q := fun solution asked reply => ∀ r, Challenge.isChallenge r = true →
        Reached net request (.fetch request (.ok r) :: .solve request (.ok solution) :: asked) reply) ?_ ?_ ?_
      · intro solution
        cases solution with
        | none =>
            exact Notes.settle fun r hpuzzle => .unsolved r hpuzzle hsome
        | some solved =>
            by_cases hagain : Challenge.isChallenge solved = true
            · simp only [if_pos hagain]
              exact Notes.settle fun r hpuzzle => .puzzledAgain r solved hpuzzle hsome hagain
            · have hplain : Challenge.isChallenge solved = false := by simpa using hagain
              by_cases hstatus : solved.status ≥ 400
              · simp only [if_neg hagain, if_pos hstatus]
                exact Notes.settle fun r hpuzzle => .solverRefused r solved hpuzzle hsome hplain hstatus
              · simp only [if_neg hagain, if_neg hstatus]
                exact Notes.settle fun r hpuzzle => .passed r solved hpuzzle hsome hplain hstatus
      · rintro asked e hasked r hpuzzle
        rw [hasked]
        exact .solverBroken r e hpuzzle hsome
      · rintro first solution second reply hfirst hsecond r hpuzzle
        rw [hfirst]
        exact hsecond r hpuzzle

/-- What is asked for a body, and what comes of it. -/
theorem Notes.body (net : Network σ) (request : Request) :
    Notes (Visit.body net.recorded request) (Visit.body net request) (Reached net request) := by
  refine (Notes.recording _ _).bind (Q := fun response asked reply =>
    Reached net request (.fetch request (.ok response) :: asked) reply) ?_ ?_ ?_
  · intro response
    by_cases hpuzzle : Challenge.isChallenge response = true
    · simp only [if_pos hpuzzle]
      exact (Notes.pass net request).mono fun asked reply h => h response hpuzzle
    · have hplain : Challenge.isChallenge response = false := by simpa using hpuzzle
      by_cases hstatus : response.status ≥ 400
      · simp only [if_neg hpuzzle, if_pos hstatus]
        exact Notes.settle (.refused response hplain hstatus)
      · simp only [if_neg hpuzzle, if_neg hstatus]
        exact Notes.settle (.read response hplain hstatus)
  · intro asked e hasked
    rw [hasked]
    exact .broken e
  · intro first response second reply hfirst hsecond
    rw [hfirst]
    exact hsecond

end MetaSearch
