import MetaSearch.Datum.Printed
import MetaSearch.Fault
import MetaSearch.Number.Numeral
import MetaSearch.Text.Basic
import MetaSearch.Text.Blank
import MetaSearch.Text.Letter

/-!
# Paths into documents

A path is a list of keys with points between them, each key followed by positions in brackets. `$` and the empty
path name the whole document. `resolve?` follows a written path; `follow?` takes the steps one by one.
-/

namespace MetaSearch

/-- One step into a document. -/
inductive PathStep where
  | key (name : String)
  | index (position : Nat)
  deriving DecidableEq, Repr

namespace Datum

/-- What a step leads to; nothing where there is no such key or position, and nothing for null. -/
def step? (d : Datum) : PathStep → Option Datum
  | .key name =>
    match d.get? name with
    | some .null => none
    | found => found
  | .index position =>
    match d with
    | list xs =>
      match xs[position]? with
      | some .null => none
      | found => found
    | _ => none

/-- What steps lead to one after the other. -/
def follow? : Datum → List PathStep → Option Datum
  | d, [] => some d
  | d, s :: rest => (d.step? s).bind (follow? · rest)

end Datum

namespace DocumentPath

/-- Whether a character is a bracket of a position. -/
def isBracket (c : Char) : Bool := c == '[' || c == ']'

/-- The positions in brackets that a text is made of; a line end may stand behind them. -/
def positions? : (fuel : Nat) → List Char → Option (List String)
  | 0, _ => none
  | _ + 1, [] => some []
  | fuel + 1, s =>
    match s with
    | ['\n'] => some []
    | '[' :: rest =>
      let digits := rest.takeWhile Text.isDecimal
      match rest.drop digits.length with
      | ']' :: rest =>
        if digits.isEmpty then none else (positions? fuel rest).map (String.ofList digits :: ·)
      | _ => none
    | _ => none

/-- The key and the positions of one part of a path. -/
def part? (part : String) : Option (String × List String) :=
  let key := part.toList.takeWhile fun c => !isBracket c
  (positions? (part.length + 1) (part.toList.drop key.length)).map (String.ofList key, ·)

/-- What positions lead to inside a value. -/
def index? (value : Option Datum) : List String → Except Fault (Option Datum)
  | [] => .ok value
  | digits :: rest =>
    match Numeral.int? digits with
    | none => .error .notANumber
    | some position =>
      match value with
      | some (.list xs) =>
        if xs.length ≤ position.toNat then .ok none else index? xs[position.toNat]? rest
      | _ => .ok none

/-- What one part leads to; nothing where a step fails or leads to null. -/
def enter? (value : Datum) (part : String) : Except Fault (Option Datum) := do
  match part? part with
  | none => return none
  | some (key, digits) =>
    let inner :=
      if key.isEmpty then some value
      else
        match value with
        | .map _ => some ((value.get? key).getD .null)
        | _ => none
    match inner with
    | none => return none
    | some inner =>
      match ← index? (some inner) digits with
      | some .null => return none
      | found => return found

/-- What the parts of a path lead to; empty parts are passed over. -/
def walk? : Datum → List String → Except Fault (Option Datum)
  | value, [] => .ok (some value)
  | value, part :: rest =>
    if part.isEmpty then walk? value rest
    else do
      match ← enter? value part with
      | none => return none
      | some inner => walk? inner rest

/-- The path without the mark of the whole document in front. -/
def relative (path : String) : String :=
  if Text.startsWith path "$." then Text.drop 2 path else path

/-- What a written path leads to in a document. -/
def resolve? (document : Datum) (path : String) : Except Fault (Option Datum) :=
  let path := Text.strip path
  if document.isNull then .ok none
  else if path.isEmpty || path == "$" then .ok (some document)
  else walk? document (Text.split "." (relative path))

end DocumentPath

end MetaSearch
