import MetaSearch.Proofs.Template.Held

/-!
# Templates by their structure

A template is text, an action, an if-block with one branch or two, or one template behind another. `Form` is that
structure, `source` the text it is written as, and `meaning` what it stands for in an environment: text as it is, an
action as its value, an if-block as the branch that its condition chooses. `meaning` knows nothing of passes.
-/

namespace MetaSearch.Template

/-- A template by its structure. -/
inductive Form where
  | text (s : List Char)
  | action (body : List Char)
  | guarded (cond : List Char) (first : Form)
  | choice (cond : List Char) (first otherwise : Form)
  | joined (a b : Form)

/-- Double braces around a text, with a space on either side of it. -/
def tag (body : List Char) : List Char :=
  '\x7b' :: '\x7b' :: ' ' :: (body ++ [' ', '\x7d', '\x7d'])

/-- What opens an if-block. -/
def ifTag (cond : List Char) : List Char :=
  tag ('i' :: 'f' :: ' ' :: cond)

/-- What parts the branches of an if-block. -/
def elseTag : List Char :=
  tag ['e', 'l', 's', 'e']

/-- What ends an if-block. -/
def endTag : List Char :=
  tag ['e', 'n', 'd']

namespace Form

/-- The text that a template is written as. -/
def source : Form → List Char
  | text s => s
  | action body => tag body
  | guarded cond first => ifTag cond ++ first.source ++ endTag
  | choice cond first otherwise => ifTag cond ++ first.source ++ elseTag ++ otherwise.source ++ endTag
  | joined a b => a.source ++ b.source

/-- How deep if-blocks are nested. -/
def depth : Form → Nat
  | text _ | action _ => 0
  | guarded _ first => first.depth + 1
  | choice _ first otherwise => max first.depth otherwise.depth + 1
  | joined a b => max a.depth b.depth

/-- Text and the insides of double braces hold no brace, and those insides have a supported form. -/
def WellFormed : Form → Prop
  | text s => ∀ c ∈ s, isBrace c = false
  | action body => (∀ c ∈ body, isBrace c = false) ∧ ActionForm (tokens body)
  | guarded cond first =>
    (∀ c ∈ cond, isBrace c = false) ∧ ConditionForm (tokens cond) ∧ first.WellFormed
  | choice cond first otherwise =>
    (∀ c ∈ cond, isBrace c = false) ∧ ConditionForm (tokens cond) ∧ first.WellFormed ∧ otherwise.WellFormed
  | joined a b => a.WellFormed ∧ b.WellFormed

/-- What a template stands for in an environment, where `image` writes the value of an action. -/
def meaning (env : Environment) (image : String → List Char) : Form → List Char
  | text s => s
  | action body => (action? env body).elim [] image
  | guarded cond first => if condition? env cond = some true then first.meaning env image else []
  | choice cond first otherwise =>
    if condition? env cond = some true then first.meaning env image else otherwise.meaning env image
  | joined a b => a.meaning env image ++ b.meaning env image

/-- The text that stands outside double braces holds no held character. -/
def TextUnheld : Form → Prop
  | text s => Unheld s
  | action _ => True
  | guarded _ first => first.TextUnheld
  | choice _ first otherwise => first.TextUnheld ∧ otherwise.TextUnheld
  | joined a b => a.TextUnheld ∧ b.TextUnheld

/-- A property of what stands in the actions. -/
def EachAction (p : List Char → Prop) : Form → Prop
  | text _ => True
  | action body => p body
  | guarded _ first => first.EachAction p
  | choice _ first otherwise => first.EachAction p ∧ otherwise.EachAction p
  | joined a b => a.EachAction p ∧ b.EachAction p

theorem EachAction.mono {p q : List Char → Prop} (h : ∀ body, p body → q body) {f : Form} (hf : f.EachAction p) :
    f.EachAction q := by
  induction f with
  | text s => trivial
  | action body => exact h body hf
  | guarded cond first ih => exact ih hf
  | choice cond first otherwise ih1 ih2 => exact ⟨ih1 hf.1, ih2 hf.2⟩
  | joined a b ih1 ih2 => exact ⟨ih1 hf.1, ih2 hf.2⟩

theorem EachAction.of_forall {p : List Char → Prop} (h : ∀ body, p body) (f : Form) : f.EachAction p := by
  induction f with
  | text s => trivial
  | action body => exact h body
  | guarded cond first ih => exact ih
  | choice cond first otherwise ih1 ih2 => exact ⟨ih1, ih2⟩
  | joined a b ih1 ih2 => exact ⟨ih1, ih2⟩

end Form

end MetaSearch.Template
