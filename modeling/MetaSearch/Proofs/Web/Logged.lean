import MetaSearch.Proofs.Search.Asked
import MetaSearch.Search.Network

/-!
# What a client sends

A client can be made to write down what it puts on the wire, without any other difference.  `Sends` says of an action
what it sends first; all that is sent later comes behind it.  The first message of a delivery is the request itself,
whatever redirections follow (`Client.deliver_logs`), and so the first message of a fetch is the request under its
target (`Client.fetch_sends`).
-/

namespace MetaSearch

variable {σ ε α β : Type}

/-- The client that writes down what it sends. -/
def Client.logged (client : Client σ) : Client (σ × List Sent) where
  send m := fun (s, log) =>
    let (answer, s) := (client.send m).run s
    (answer, (s, log ++ [m]))
  followsRedirects := client.followsRedirects

/-- An action writes down something, and takes nothing away. -/
def Logs (act : ExceptT ε (StateM (σ × List Sent)) α) : Prop :=
  ∀ s log, ∃ more, (act.run (s, log)).2.2 = log ++ more

/-- An action sends a message before anything else. -/
def Sends (first : Sent) (act : ExceptT ε (StateM (σ × List Sent)) α) : Prop :=
  ∀ s log, ∃ more, (act.run (s, log)).2.2 = log ++ first :: more

/-- What is in the log of an action that sends something. -/
theorem Sends.head? {first : Sent} {act : ExceptT ε (StateM (σ × List Sent)) α} (h : Sends first act) (s : σ) :
    (act.run (s, [])).2.2.head? = some first := by
  obtain ⟨more, hmore⟩ := h s []
  rw [hmore]
  rfl

/-- An action that sends something writes something down. -/
theorem Sends.logs {first : Sent} {act : ExceptT ε (StateM (σ × List Sent)) α} (h : Sends first act) : Logs act := by
  intro s log
  obtain ⟨more, hmore⟩ := h s log
  exact ⟨first :: more, hmore⟩

namespace Logs

/-- Nothing is sent where nothing is done. -/
theorem ofExcept (x : Except ε α) : Logs (ExceptT.mk (pure x) : ExceptT ε (StateM (σ × List Sent)) α) :=
  fun _ log => ⟨[], (List.append_nil log).symm⟩

/-- Actions in a row write down something. -/
theorem bind {act : ExceptT ε (StateM (σ × List Sent)) α} {next : α → ExceptT ε (StateM (σ × List Sent)) β}
    (h : Logs act) (hnext : ∀ a, Logs (next a)) : Logs (act >>= next) := by
  intro s log
  obtain ⟨more, hmore⟩ := h s log
  rw [exceptT_run_bind]
  rcases hrun : act.run (s, log) with ⟨e | a, s', log'⟩
  · rw [hrun] at hmore
    exact ⟨more, hmore⟩
  · rw [hrun] at hmore
    obtain ⟨rest, hrest⟩ := hnext a s' log'
    refine ⟨more ++ rest, ?_⟩
    rw [← List.append_assoc, ← hmore]
    exact hrest

end Logs

namespace Sends

/-- What an action sends first is also sent first when other actions follow it. -/
theorem bind {first : Sent} {act : ExceptT ε (StateM (σ × List Sent)) α}
    {next : α → ExceptT ε (StateM (σ × List Sent)) β} (h : Sends first act) (hnext : ∀ a, Logs (next a)) :
    Sends first (act >>= next) := by
  intro s log
  obtain ⟨more, hmore⟩ := h s log
  rw [exceptT_run_bind]
  rcases hrun : act.run (s, log) with ⟨e | a, s', log'⟩
  · rw [hrun] at hmore
    exact ⟨more, hmore⟩
  · rw [hrun] at hmore
    obtain ⟨rest, hrest⟩ := hnext a s' log'
    refine ⟨more ++ rest, ?_⟩
    rw [← List.cons_append, ← List.append_assoc, ← hmore]
    exact hrest

/-- What an action sends first it also sends first when its failure is only told. -/
theorem lift {ε' : Type} {first : Sent} {act : ExceptT ε (StateM (σ × List Sent)) α} (h : Sends first act) :
    Sends first (ExceptT.lift act.run : ExceptT ε' (StateM (σ × List Sent)) (Except ε α)) := by
  intro s log
  obtain ⟨more, hmore⟩ := h s log
  exact ⟨more, hmore⟩

/-- A logged client writes down a message when it sends it. -/
theorem send (client : Client σ) (m : Sent) : Sends m (ExceptT.mk (client.logged.send m)) :=
  fun _ _ => ⟨[], rfl⟩

end Sends

namespace Client

/-- A delivery writes down something, and with any attempt left it sends its request first. -/
theorem deliver_logs (client : Client σ) (left : Nat) (method : String) (t : Target) (body : String) :
    Logs (client.logged.deliver left method t body) ∧
      (0 < left → Sends { method, url := t.text, body } (client.logged.deliver left method t body)) := by
  induction left generalizing method t body with
  | zero => exact ⟨Logs.ofExcept (.error _), by omega⟩
  | succ left ih =>
      have hsends : Sends { method, url := t.text, body } (client.logged.deliver (left + 1) method t body) := by
        rw [deliver]
        refine (Sends.send client _).bind fun r => ?_
        split
        · exact Logs.ofExcept (.error _)
        · exact Logs.ofExcept (.ok _)
        · split
          · exact (ih _ _ _).1
          · exact Logs.ofExcept (.ok _)
      exact ⟨hsends.logs, fun _ => hsends⟩

/-- **The first message of a fetch is the request under its target.** -/
theorem fetch_sends (client : Client σ) {request : Request} {t : Target} (ht : request.target = .ok t)
    (hheaders : ∀ field ∈ request.headers, ∀ c ∈ field.2.toList, c.toNat < 128) :
    Sends { method := Text.upper request.method, url := t.text, body := Percent.form (parameterFields request.form) }
      (client.logged.fetch request) := by
  have hascii : (request.headers.any fun field => field.2.toList.any fun c => 128 ≤ c.toNat) = false := by
    rw [List.any_eq_false]
    intro field hfield
    rw [Bool.not_eq_true, List.any_eq_false]
    intro c hc
    simpa using hheaders field hfield c hc
  have hexchange : Sends { method := Text.upper request.method, url := t.text
                           body := Percent.form (parameterFields request.form) } (client.logged.exchange request) := by
    have hsettled : (settle ((Except.ok t).mapError Breakdown.misaddressed) : Exchange (σ × List Sent) Target) =
        pure t := rfl
    simp only [exchange, ht, hsettled, pure_bind, hascii, Bool.false_eq_true, if_false]
    refine Sends.bind ((deliver_logs client _ _ t _).2 (by decide)) fun delivered => ?_
    exact (Logs.ofExcept _).bind fun text => Logs.ofExcept (.ok _)
  refine hexchange.lift.bind fun answer => ?_
  cases answer with
  | ok answer => exact Logs.ofExcept (.ok _)
  | error breakdown => exact Logs.ofExcept (.error _)

/-- A client that is always answered with an empty page. -/
def silent : Client Unit where
  send _ := pure (.ok {})

end Client

/-- The moment at which the calendar begins. -/
def dawn : Moment := ⟨0, 0, calendarTicks_pos⟩

end MetaSearch
