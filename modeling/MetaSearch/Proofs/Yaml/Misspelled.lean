import MetaSearch.Yaml.Meaning

/-!
# Documents that are misspelled

A text that makes up no document is malformed.  A scalar that does not spell what it is read as is another matter: it breaks
the reading off where it is met.  `Yaml.read_eq_fault_iff` says when that happens: in front of all structure, where an escape
or the number of a version makes no token, or else at the first step of the document that is in trouble, when that step begins
a scalar and the scalar is misspelled.
-/

namespace MetaSearch.Yaml

namespace Node.Step

/-- A step breaks off exactly where it begins a scalar that does not spell what it is read as. -/
theorem trouble?_eq_fault_iff {step : Step} {f : Fault} :
    step.trouble? = some (.fault f) ↔
      ∃ node, step = .begin node ∧ node.isCollection = false ∧ node.scalarValue = .error (.fault f) := by
  cases step with
  | begin node =>
      cases hcollection : node.isCollection <;> cases hvalue : node.scalarValue <;>
        simp [trouble?, hcollection, hvalue]
  | key node => cases hcollection : node.isCollection <;> simp [trouble?, hcollection]
  | broken => simp [trouble?]

/-- Steps break off at the first one that is in trouble, if that begins a misspelled scalar. -/
theorem findSome?_trouble?_eq_fault_iff {steps : List Step} {f : Fault} :
    steps.findSome? trouble? = some (.fault f) ↔
      ∃ before node after, steps = before ++ .begin node :: after ∧ (∀ step ∈ before, step.trouble? = none) ∧
        node.isCollection = false ∧ node.scalarValue = .error (.fault f) := by
  rw [List.findSome?_eq_some_iff]
  constructor
  · rintro ⟨before, step, after, hsteps, hstep, hbefore⟩
    obtain ⟨node, rfl, hscalar, hnode⟩ := trouble?_eq_fault_iff.mp hstep
    exact ⟨before, node, after, hsteps, hbefore, hscalar, hnode⟩
  · rintro ⟨before, node, after, hsteps, hbefore, hscalar, hnode⟩
    exact ⟨before, _, after, hsteps, trouble?_eq_fault_iff.mpr ⟨node, rfl, hscalar, hnode⟩, hbefore⟩

end Node.Step

/-- What is done in a row goes wrong in its first part, or in what is made of that. -/
theorem bind_eq_error_iff {ε α β : Type} {x : Except ε α} {g : α → Except ε β} {e : ε} :
    (x >>= g) = .error e ↔ x = .error e ∨ ∃ a, x = .ok a ∧ g a = .error e := by
  cases x <;> simp [bind, Except.bind]

/-- What is there is well formed. -/
theorem orMalformed_eq_ok_iff {α : Type} {o : Option α} {a : α} : orMalformed o = .ok a ↔ o = some a := by
  cases o <;> simp [orMalformed]

/-- What is malformed is not misspelled. -/
theorem orMalformed_ne_fault {α : Type} {o : Option α} {f : Fault} : orMalformed o ≠ .error (.fault f) := by
  cases o <;> simp [orMalformed]

/-- A text whose reading breaks off at something that is misspelled. -/
inductive Misspells (text : String) : Fault → Prop
  /-- There are no tokens. -/
  | token {f : Fault} (h : tokens text = .error (.fault f)) : Misspells text f
  /-- The first step that is in trouble begins a misspelled scalar. -/
  | scalar {ts : List Token} {written node : Node} {anchors : Anchors} (htokens : tokens text = .ok ts)
      (hwritten : Node.ofTokens? ts = some (some written)) (hnode : written.expand? [] = some (node, anchors))
      {before after : List Node.Step} {n : Node} (hsteps : node.steps = before ++ .begin n :: after)
      (hbefore : ∀ step ∈ before, step.trouble? = none) (hscalar : n.isCollection = false) {f : Fault}
      (h : n.scalarValue = .error (.fault f)) : Misspells text f

/-- **When the reading of a text breaks off.** -/
theorem read_eq_fault_iff {text : String} {f : Fault} : read text = .error (.fault f) ↔ Misspells text f := by
  rw [read, bind_eq_error_iff]
  constructor
  · rintro (h | ⟨ts, htokens, h⟩)
    · exact .token h
    · cases hwritten : Node.ofTokens? ts with
      | none => simp [hwritten, throw, throwThe, MonadExceptOf.throw] at h
      | some document =>
          cases document with
          | none => simp [hwritten, pure, Except.pure] at h
          | some written =>
              simp only [hwritten, bind_eq_error_iff, orMalformed_ne_fault, orMalformed_eq_ok_iff, false_or] at h
              obtain ⟨⟨node, anchors⟩, hnode, h⟩ := h
              cases htrouble : node.steps.findSome? Node.Step.trouble? with
              | none => simp [htrouble, pure, Except.pure] at h
              | some u =>
                  simp only [htrouble, throw, throwThe, MonadExceptOf.throw, Except.error.injEq] at h
                  rw [h] at htrouble
                  obtain ⟨before, n, after, hsteps, hbefore, hscalar, hn⟩ :=
                    Node.Step.findSome?_trouble?_eq_fault_iff.mp htrouble
                  exact .scalar htokens hwritten hnode hsteps hbefore hscalar hn
  · intro h
    cases h with
    | token h => exact .inl h
    | scalar htokens hwritten hnode hsteps hbefore hscalar h =>
        have htrouble := Node.Step.findSome?_trouble?_eq_fault_iff.mpr ⟨_, _, _, hsteps, hbefore, hscalar, h⟩
        refine .inr ⟨_, htokens, ?_⟩
        simp only [hwritten, bind_eq_error_iff]
        exact .inr ⟨_, orMalformed_eq_ok_iff.mpr hnode, by rw [htrouble]; rfl⟩

end MetaSearch.Yaml
