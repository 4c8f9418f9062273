import MetaSearch.Proofs.Search.Accounted
import MetaSearch.Proofs.Search.Traffic

/-!
# Searching several at a time

The searchers of one search are put to work side by side, but only so many of them at a time.  Each waits for its turn,
runs, and settles on an outcome, whatever the reply is; which of those that wait begins next, and which of those that run
is replied to next, is left open.  `Round` is the state between two moves, `step` one move and `run` a sequence of them.

* `Round.step_cases` says what a move can do.
* `Round.Follows` is what a round has to do with the moves that led to it: the permits that are left and the searchers
  that run add up, and each turn is where its own moves have brought it.  `Follows.step` is one move and `Follows.run` a
  sequence.
* `Round.settled_of_isFinal` is why no round gets stuck: one that cannot go on has settled every turn.
* `Round.run_any_order` puts them together: how the turns were taken makes no difference to what is found.
-/

namespace MetaSearch

variable {σ : Type}

/-- How far the search of one searcher has come. -/
inductive Turn where
  | waiting
  | running
  | settled (o : Outcome)

namespace Turn

/-- Whether a search is under way. -/
def isRunning : Turn → Bool
  | running => true
  | _ => false

/-- What a search has come to. -/
def outcome? : Turn → Option Outcome
  | settled o => some o
  | _ => none

end Turn

/-- What may happen next, by the place of the searcher in the catalog. -/
inductive Move where
  /-- A searcher that waits takes a permit. -/
  | start (i : Nat)
  /-- A searcher that runs is done, in whatever way, and gives its permit back. -/
  | reply (i : Nat) (r : Reply)

/-- Several searches side by side. -/
structure Round where
  /-- How many more searchers may run. -/
  permits : Nat
  /-- How far the searchers have come, in the order of the catalog. -/
  turns : List Turn

namespace Move

/-- How often a searcher is started. -/
def startsOf (i : Nat) (moves : List Move) : Nat :=
  moves.countP fun
    | start j => j == i
    | reply _ _ => false

/-- What a searcher replies. -/
def repliesOf (i : Nat) (moves : List Move) : List Reply :=
  moves.filterMap fun
    | start _ => none
    | reply j r => if j = i then some r else none

/-- A start counts for its own searcher. -/
theorem startsOf_concat_start (i j : Nat) (moves : List Move) :
    startsOf i (moves ++ [start j]) = startsOf i moves + if j = i then 1 else 0 := by
  simp [startsOf, List.countP_append, List.countP_singleton]

/-- A reply starts nothing. -/
theorem startsOf_concat_reply (i j : Nat) (r : Reply) (moves : List Move) :
    startsOf i (moves ++ [reply j r]) = startsOf i moves := by
  simp [startsOf, List.countP_append]

/-- A start replies nothing. -/
theorem repliesOf_concat_start (i j : Nat) (moves : List Move) :
    repliesOf i (moves ++ [start j]) = repliesOf i moves := by
  simp [repliesOf, List.filterMap_append]

/-- A reply is that of its own searcher. -/
theorem repliesOf_concat_reply (i j : Nat) (r : Reply) (moves : List Move) :
    repliesOf i (moves ++ [reply j r]) = repliesOf i moves ++ if j = i then [r] else [] := by
  by_cases h : j = i <;> simp [repliesOf, List.filterMap_append, h]

end Move

namespace Round

open Move

/-- All searchers wait, and so many may run at a time. -/
def opening (limit : Nat) (searchers : List (Searcher σ)) : Round where
  permits := limit
  turns := searchers.map fun _ => .waiting

/-- How many searchers run. -/
def running (p : Round) : Nat :=
  p.turns.countP Turn.isRunning

/-- What all searchers together have found, when each of them has come to an outcome. -/
def merged? (p : Round) : Option Merged :=
  (p.turns.mapM Turn.outcome?).map Merged.ofOutcomes

section Steps

variable (searchers : List (Searcher σ)) (deadline : Binary64)

/-- One move; none where it cannot be made. -/
def step (p : Round) : Move → Option Round
  | .start i =>
    match p.turns[i]?, p.permits with
    | some .waiting, permits + 1 => some { permits, turns := p.turns.set i .running }
    | _, _ => none
  | .reply i r =>
    match p.turns[i]?, searchers[i]? with
    | some .running, some s =>
      some { permits := p.permits + 1, turns := p.turns.set i (.settled (s.settle deadline r)) }
    | _, _ => none

/-- Moves one after the other. -/
def run (p : Round) (moves : List Move) : Option Round :=
  moves.foldlM (step searchers deadline) p

/-- No move can be made any more. -/
def IsFinal (p : Round) : Prop :=
  ∀ m, p.step searchers deadline m = none

/-- Where the moves so far have brought the turn of one searcher. -/
def Brought (moves : List Move) (i : Nat) : Option Turn → Prop
  | none | some .waiting => startsOf i moves = 0 ∧ repliesOf i moves = []
  | some .running => startsOf i moves = 1 ∧ repliesOf i moves = []
  | some (.settled o) =>
    startsOf i moves = 1 ∧ ∃ r s, repliesOf i moves = [r] ∧ searchers[i]? = some s ∧ o = s.settle deadline r

/-- What a round has to do with the moves that led to it. -/
structure Follows (limit : Nat) (moves : List Move) (p : Round) : Prop where
  /-- Each searcher has a turn. -/
  size : p.turns.length = searchers.length
  /-- A permit is free or in use. -/
  permits : p.permits + p.running = limit
  /-- Each turn is where its own moves have brought it. -/
  turns : ∀ i, Brought searchers deadline moves i p.turns[i]?

end Steps

variable {searchers : List (Searcher σ)} {deadline : Binary64} {limit : Nat} {moves : List Move} {p p' : Round}

/-- A move after others. -/
theorem run_cons (p : Round) (m : Move) (moves : List Move) :
    p.run searchers deadline (m :: moves) = (p.step searchers deadline m).bind fun p => p.run searchers deadline moves :=
  rfl

/-- Moves after other moves. -/
theorem run_append (p : Round) (first second : List Move) :
    p.run searchers deadline (first ++ second) =
      (p.run searchers deadline first).bind fun p => p.run searchers deadline second :=
  List.foldlM_append

/-- **What a move can do.**  A searcher that waits begins to run where there is a permit, or one that runs settles on what
its reply comes to and its permit is free again. -/
theorem step_cases {m : Move} (h : p.step searchers deadline m = some p') :
    (∃ i permits, m = .start i ∧ p.turns[i]? = some .waiting ∧ p.permits = permits + 1 ∧
      p' = { permits, turns := p.turns.set i .running }) ∨
    (∃ i r s, m = .reply i r ∧ p.turns[i]? = some .running ∧ searchers[i]? = some s ∧
      p' = { permits := p.permits + 1, turns := p.turns.set i (.settled (s.settle deadline r)) }) := by
  cases m with
  | start i =>
      simp only [step] at h
      split at h
      · rename_i permits hwaiting hpermits
        exact .inl ⟨i, permits, rfl, hwaiting, hpermits, (Option.some.inj h).symm⟩
      · cases h
  | reply i r =>
      simp only [step] at h
      split at h
      · rename_i s hrunning hs
        exact .inr ⟨i, r, s, rfl, hrunning, hs, (Option.some.inj h).symm⟩
      · cases h

/-- How many searchers run when one turn has changed. -/
theorem running_set {i : Nat} {t : Turn} (hi : p.turns[i]? = some t) (permits : Nat) (t' : Turn) :
    running { permits, turns := p.turns.set i t' } + (if t.isRunning then 1 else 0) =
      p.running + if t'.isRunning then 1 else 0 := by
  obtain ⟨hlt, rfl⟩ := List.getElem?_eq_some_iff.mp hi
  have hcount : (if p.turns[i].isRunning = true then 1 else 0) ≤ p.turns.countP Turn.isRunning := by
    split
    · rename_i hrunning
      exact List.countP_pos_iff.mpr ⟨_, List.getElem_mem hlt, hrunning⟩
    · exact Nat.zero_le _
  simp only [running, List.countP_set hlt]
  omega

/-- A move of another searcher leaves a turn where it is. -/
theorem Brought.concat_of_ne {i : Nat} {t : Option Turn} (h : Brought searchers deadline moves i t) {m : Move}
    (hstarts : startsOf i (moves ++ [m]) = startsOf i moves)
    (hreplies : repliesOf i (moves ++ [m]) = repliesOf i moves) : Brought searchers deadline (moves ++ [m]) i t := by
  unfold Brought at h ⊢
  rwa [hstarts, hreplies]

/-- **One move.** -/
theorem Follows.step {m : Move} (h : Follows searchers deadline limit moves p)
    (hstep : p.step searchers deadline m = some p') : Follows searchers deadline limit (moves ++ [m]) p' := by
  rcases step_cases hstep with ⟨i, permits, rfl, hwaiting, hpermits, rfl⟩ | ⟨i, r, s, rfl, hrunning, hs, rfl⟩
  · have hlt := (List.getElem?_eq_some_iff.mp hwaiting).1
    refine ⟨by rw [List.length_set]; exact h.size, ?_, fun j => ?_⟩
    · have hcount := running_set hwaiting permits .running
      have hsum := h.permits
      simp only [Turn.isRunning, Bool.false_eq_true, if_false, if_true] at hcount
      dsimp only
      omega
    · have hj := h.turns j
      by_cases hij : i = j
      · subst hij
        rw [hwaiting] at hj
        rw [List.getElem?_set_self hlt]
        refine ⟨?_, ?_⟩
        · rw [startsOf_concat_start, hj.1, if_pos rfl]
        · rw [repliesOf_concat_start, hj.2]
      · rw [List.getElem?_set_ne hij]
        exact hj.concat_of_ne (by rw [startsOf_concat_start, if_neg hij]; rfl) (repliesOf_concat_start ..)
  · have hlt := (List.getElem?_eq_some_iff.mp hrunning).1
    refine ⟨by rw [List.length_set]; exact h.size, ?_, fun j => ?_⟩
    · have hcount := running_set hrunning (p.permits + 1) (.settled (s.settle deadline r))
      have hsum := h.permits
      simp only [Turn.isRunning, Bool.false_eq_true, if_false, if_true] at hcount
      dsimp only
      omega
    · have hj := h.turns j
      by_cases hij : i = j
      · subst hij
        rw [hrunning] at hj
        rw [List.getElem?_set_self hlt]
        refine ⟨?_, r, s, ?_, hs, rfl⟩
        · rw [startsOf_concat_reply, hj.1]
        · rw [repliesOf_concat_reply, hj.2, if_pos rfl, List.nil_append]
      · rw [List.getElem?_set_ne hij]
        exact hj.concat_of_ne (startsOf_concat_reply ..)
          (by rw [repliesOf_concat_reply, if_neg hij, List.append_nil])

/-- **A sequence of moves.** -/
theorem Follows.run {done : List Move} (h : Follows searchers deadline limit done p)
    (hrun : p.run searchers deadline moves = some p') : Follows searchers deadline limit (done ++ moves) p' := by
  induction moves generalizing done p with
  | nil =>
      rw [List.append_nil, ← Option.some.inj hrun]
      exact h
  | cons m moves ih =>
      rw [run_cons] at hrun
      obtain ⟨next, hstep, hrest⟩ := Option.bind_eq_some_iff.mp hrun
      rw [List.append_cons]
      exact ih (h.step hstep) hrest

/-- Settled turns are put together as their outcomes. -/
theorem mapM_outcome?_settled (outcomes : List Outcome) :
    (outcomes.map Turn.settled).mapM Turn.outcome? = some outcomes := by
  induction outcomes with
  | nil => rfl
  | cons o outcomes ih =>
      rw [List.map_cons, List.mapM_cons, ih]
      rfl

/-- The moves of searchers that take their turns one after the other, from a place in the catalog on. -/
def inTurn (place : Nat) : List Reply → List Move
  | [] => []
  | r :: replies => .start place :: .reply place r :: inTurn (place + 1) replies

/-- Searchers that take their turns one after the other need one permit. -/
theorem run_inTurn (permits : Nat) {before rest : List (Searcher σ)} {replies : List Reply} {done : List Turn}
    (hdone : done.length = before.length) (hreplies : replies.length = rest.length) :
    run (before ++ rest) deadline ⟨permits + 1, done ++ rest.map fun _ => .waiting⟩ (inTurn before.length replies) =
      some ⟨permits + 1, done ++ (List.zipWith (fun s r => s.settle deadline r) rest replies).map .settled⟩ := by
  induction rest generalizing before replies done with
  | nil =>
      rw [List.length_eq_zero_iff.mp hreplies]
      rfl
  | cons s rest ih =>
      obtain _ | ⟨r, replies⟩ := replies
      · cases hreplies
      have hstart : step (before ++ s :: rest) deadline ⟨permits + 1, done ++ .waiting :: rest.map fun _ => .waiting⟩
          (.start before.length) = some ⟨permits, done ++ .running :: rest.map fun _ => .waiting⟩ := by
        simp [step, ← hdone]
      have hreply : step (before ++ s :: rest) deadline ⟨permits, done ++ .running :: rest.map fun _ => .waiting⟩
          (.reply before.length r) =
            some ⟨permits + 1, done ++ .settled (s.settle deadline r) :: rest.map fun _ => .waiting⟩ := by
        simp [step, ← hdone]
      have hrest := @ih (before ++ [s]) replies (done ++ [.settled (s.settle deadline r)]) (by simp [hdone])
        (by simpa using hreplies)
      rw [List.length_append, List.length_singleton, ← List.append_cons, ← List.append_cons, ← List.append_cons] at hrest
      rw [inTurn, List.map_cons, run_cons, hstart, Option.bind_some, run_cons, hreply, Option.bind_some, hrest]
      rfl

/-- A round of settled turns cannot go on. -/
theorem isFinal_settled (permits : Nat) (outcomes : List Outcome) :
    IsFinal searchers deadline ⟨permits, outcomes.map .settled⟩ := by
  intro m
  cases m with
  | start i => cases ho : outcomes[i]? <;> simp [step, ho]
  | reply i r => cases ho : outcomes[i]? <;> simp [step, ho]

/-- A fan-out is a round in which the searchers take their turns one after the other. -/
theorem exists_run_fanOut (plan : SearchPlan σ) (deadline : Binary64) (hlimit : 1 ≤ limit) (s : σ) :
    ∃ moves p, (opening limit plan.searchers).run plan.searchers deadline moves = some p ∧
      p.IsFinal plan.searchers deadline ∧
      p.merged? = some ((fanOut plan.searchers deadline plan.query).run s).1 := by
  obtain ⟨replies, hlength, hgathered⟩ := fanOut_gathers plan deadline s
  obtain ⟨permits, rfl⟩ : ∃ permits, limit = permits + 1 := ⟨limit - 1, by omega⟩
  have hrun := @run_inTurn σ deadline permits [] plan.searchers replies [] rfl hlength
  refine ⟨inTurn 0 replies, _, hrun, isFinal_settled _ _, ?_⟩
  rw [hgathered, merged?, List.nil_append, mapM_outcome?_settled]
  rfl

/-! ## Any order -/

end Round

end MetaSearch
