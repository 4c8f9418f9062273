import MetaSearch.Datum.Printed
import MetaSearch.Fault
import MetaSearch.Fields

/-!
# Shapes of documents

A shape says what a document is expected to hold, and reads it. A document that does not fit is not given up at
the first mistake: `Shaped` collects everything that is wrong, each with its place, in the order of the shape.
`Shaped.both_eq_good_iff` says that a pair is read exactly when both parts are.
-/

namespace MetaSearch

/-- Something wrong with a part of a document. -/
structure Complaint where
  /-- The keys and positions that lead to the part. -/
  place : List String
  reason : String
  deriving DecidableEq, Repr, Inhabited

/-- The text of a complaint, with a word for the place that is the whole document. -/
def Complaint.text (c : Complaint) (whole : String) : String :=
  (if c.place.isEmpty then whole else ".".intercalate c.place) ++ ": " ++ c.reason

/-- What became of reading a document. -/
inductive Shaped (α : Type) where
  /-- It holds this. -/
  | good (a : α)
  /-- It does not fit, for these reasons. -/
  | bad (complaints : List Complaint)
  /-- The reading broke off. -/
  | broken (fault : Fault)
  deriving Repr

/-- What a document is expected to hold. -/
abbrev Shape (α : Type) := Datum → Shaped α

namespace Shaped

variable {α β γ : Type}

/-- What was read, put through a function. -/
def map (f : α → β) : Shaped α → Shaped β
  | good a => good (f a)
  | bad cs => bad cs
  | broken f => broken f

/-- Two readings side by side, with the complaints of both. -/
def both : Shaped α → Shaped β → Shaped (α × β)
  | broken f, _ => broken f
  | _, broken f => broken f
  | good a, good b => good (a, b)
  | bad cs, good _ => bad cs
  | good _, bad cs => bad cs
  | bad cs, bad ds => bad (cs ++ ds)

/-- A reading that goes on with what was read. -/
def andThen (x : Shaped α) (f : α → Shaped β) : Shaped β :=
  match x with
  | good a => f a
  | bad cs => bad cs
  | broken f => broken f

/-- What can be had or not, as a reading. -/
def ofExcept : Except Fault α → Shaped α
  | .ok a => good a
  | .error f => broken f

/-- Readings one after the other, up to the first that does not come to anything. -/
def inOrder (f : α → Shaped β) : List α → Shaped (List β)
  | [] => good []
  | a :: as => (f a).andThen fun b => (inOrder f as).map (b :: ·)

/-- A single complaint about the whole of what is read. -/
def complain (reason : String) : Shaped α :=
  bad [⟨[], reason⟩]

/-- A reading of a part, its complaints placed under the part's key or position. -/
def under (key : String) : Shaped α → Shaped α
  | bad cs => bad (cs.map fun c => { c with place := key :: c.place })
  | other => other

instance : Applicative Shaped where
  pure := good
  seq f x := (both f (x ())).map fun (f, a) => f a

/-- The readings of several parts, in order. -/
def all : List (Shaped α) → Shaped (List α)
  | [] => good []
  | x :: xs => (both x (all xs)).map fun (a, as) => a :: as

theorem both_eq_good_iff {x : Shaped α} {y : Shaped β} {p : α × β} :
    both x y = good p ↔ x = good p.1 ∧ y = good p.2 := by
  obtain ⟨a, b⟩ := p
  cases x <;> cases y <;> simp [both]

end Shaped

namespace Shape

variable {α : Type}

/-- The entry of a map under a key, read; the default where there is none. -/
def field (entries : List (Datum × Datum)) (name : String) (shape : Shape α) (fallback : α) : Shaped α :=
  match Datum.lookup? (.text name) entries with
  | some d => (shape d).under name
  | none => .good fallback

/-- The entry of a map under a key, which must be there. -/
def required (entries : List (Datum × Datum)) (name : String) (shape : Shape α) : Shaped α :=
  match Datum.lookup? (.text name) entries with
  | some d => (shape d).under name
  | none => (Shaped.complain "Field required").under name

/-- A record, known by a name, of which `read` reads the entries. -/
def record (name : String) (read : List (Datum × Datum) → Shaped α) : Shape α
  | .map entries => read entries
  | _ => .complain ("Input should be a valid dictionary or instance of " ++ name)

/-- Anything. -/
def anything : Shape Datum := .good

/-- Null, or something of a shape. -/
def orNull (shape : Shape α) : Shape (Option α)
  | .null => .good none
  | d => (shape d).map some

/-- The items read with a shape, each placed under its position. -/
def itemsFrom (shape : Shape α) (position : Nat) : List Datum → Shaped (List α)
  | [] => .good []
  | d :: ds =>
    (((shape d).under (toString position)).both (itemsFrom shape (position + 1) ds)).map fun (a, as) => a :: as

/-- A list of things of a shape. -/
def list (shape : Shape α) : Shape (List α)
  | .list ds => itemsFrom shape 0 ds
  | _ => .complain "Input should be a valid list"

/-- The text of a key in the place of a complaint. -/
def keyText : Datum → String
  | .text s => s
  | .bool b => if b then "1" else "0"
  | other => other.quoted

/-- The entries of a map from texts to things of a shape. -/
def entriesOf (key : Shape String) (shape : Shape α) :
    List (Datum × Datum) → Shaped (List (String × α))
  | [] => .good []
  | (k, d) :: rest =>
    let entry := (((key k).under "[key]").under (keyText k)).both ((shape d).under (keyText k))
    (entry.both (entriesOf key shape rest)).map fun (e, es) => e :: es

/-- A map from texts to things of a shape; of keys that are read as one text the last counts. -/
def table (key : Shape String) (shape : Shape α) : Shape (List (String × α))
  | .map entries => (entriesOf key shape entries).map (Fields.merge [])
  | _ => .complain "Input should be a valid dictionary"

end Shape

end MetaSearch
