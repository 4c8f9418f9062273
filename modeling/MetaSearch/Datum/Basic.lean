import MetaSearch.Calendar.Moment
import MetaSearch.Number.Binary64

/-!
# Data

A datum is what a document in a data format holds, and what a site's answer yields before it is understood:
nothing, a truth value, a whole or floating-point number, a text, a list, a map in the order of its keys, a
date, a clock reading or bytes. Keys of maps are data too; two numbers are the same key when they are equal.
-/

namespace MetaSearch

/-- A value of a document. -/
inductive Datum where
  | null
  | bool (b : Bool)
  | int (i : Int)
  | float (x : Binary64)
  | text (s : String)
  | list (xs : List Datum)
  | map (entries : List (Datum × Datum))
  | date (d : Date)
  | stamp (r : Reading)
  | bytes (b : List UInt8)
  deriving Repr, Inhabited

namespace Datum

/-- The whole number that a truth value or a number equals. -/
def wholeNumber? : Datum → Option Int
  | bool b => some (if b then 1 else 0)
  | int i => some i
  | float x =>
    match x.truncate? with
    | some i => if x.eqInt i then some i else none
    | none => none
  | _ => none

/-- Whether two scalars are the same key. -/
def sameKey (a b : Datum) : Bool :=
  match a, b with
  | null, null => true
  | text s, text t => s == t
  | date d, date e => d == e
  | stamp r, stamp q => r == q
  | bytes u, bytes v => u == v
  | float x, float y => x.eq y
  | _, _ =>
    match a.wholeNumber?, b.wholeNumber? with
    | some i, some j => i == j
    | _, _ => false

/-- Whether a datum may be a key: lists and maps may not. -/
def isKey : Datum → Bool
  | list _ | map _ => false
  | _ => true

/-- The value of a key. -/
def lookup? (key : Datum) (entries : List (Datum × Datum)) : Option Datum :=
  (entries.find? fun entry => entry.1.sameKey key).map (·.2)

/-- The entries with the value of a key set: in place where the key is there, else at the end. -/
def insert (key value : Datum) : List (Datum × Datum) → List (Datum × Datum)
  | [] => [(key, value)]
  | (k, v) :: rest => if k.sameKey key then (k, value) :: rest else (k, v) :: insert key value rest

/-- The entries without a key. -/
def erase (key : Datum) (entries : List (Datum × Datum)) : List (Datum × Datum) :=
  entries.filter fun entry => !entry.1.sameKey key

/-- The value of a text key of a map; absent for anything but a map. -/
def get? (d : Datum) (name : String) : Option Datum :=
  match d with
  | map entries => lookup? (.text name) entries
  | _ => none

/-- A map from text keys. -/
def object (fields : List (String × Datum)) : Datum :=
  map (fields.map fun (name, value) => (text name, value))

/-- A list of texts. -/
def texts (xs : List String) : Datum :=
  list (xs.map text)

/-- Whether a datum counts as something: not null, false, zero, or empty. -/
def isTruthy : Datum → Bool
  | null => false
  | bool b => b
  | int i => i != 0
  | float x => !x.isZero
  | text s => !s.isEmpty
  | list xs => !xs.isEmpty
  | map entries => !entries.isEmpty
  | date _ | stamp _ => true
  | bytes b => !b.isEmpty

/-- Whether a datum is null. -/
def isNull : Datum → Bool
  | null => true
  | _ => false

/-- The text of a datum that is a text. -/
def text? : Datum → Option String
  | text s => some s
  | _ => none

/-- The entries of a datum that is a map. -/
def entries? : Datum → Option (List (Datum × Datum))
  | map entries => some entries
  | _ => none

/-- The items of a datum that is a list. -/
def items? : Datum → Option (List Datum)
  | list xs => some xs
  | _ => none

theorem sameKey_text (s t : String) : sameKey (text s) (text t) = (s == t) := rfl

theorem lookup?_insert_self (s : String) (value : Datum) (entries : List (Datum × Datum)) :
    lookup? (text s) (insert (text s) value entries) = some value := by
  induction entries with
  | nil => simp [insert, lookup?, sameKey]
  | cons entry rest ih =>
    obtain ⟨k, v⟩ := entry
    by_cases h : k.sameKey (text s)
    · simp [insert, lookup?, h]
    · simpa [insert, lookup?, h] using ih

end Datum

end MetaSearch
