import MetaSearch.Fields
import MetaSearch.Text.Basic
import MetaSearch.Text.Blank

/-!
# Files of variables

A file that sets variables, one to a line: a name, an equal sign and a value, bare or in quotes, which may refer to
other variables. A line that makes no sense is passed over. A variable that is set already keeps its value.
-/

namespace MetaSearch

/-- The variables of an environment with their values; of two with one name the last counts. -/
abbrev Variables := List (String × String)

namespace EnvFile

/-- Whether a character is blank and ends no line. -/
def isInlineBlank (c : Char) : Bool :=
  Text.isBlank c && c != '\n'

/-- A text without the blanks in front of it on its line. -/
def skipBlanks (s : List Char) : List Char := s.dropWhile isInlineBlank

/-- Reading the front of a text: what was read and the rest, or the place at which it makes no sense. -/
abbrev Reading (α : Type) := Except (List Char) (α × List Char)

/-- A text without the word that may stand in front of a name. -/
def skipExport (s : List Char) : List Char :=
  match Text.after? "export".toList s with
  | some rest => if (rest.head?.map isInlineBlank).getD false then skipBlanks rest else s
  | none => s

/-- The name of a variable, bare or in single quotes; none in front of a comment. -/
def name (s : List Char) : Reading (Option String) :=
  match s with
  | '#' :: _ => .ok (none, s)
  | '\'' :: rest =>
    let inner := rest.takeWhile (· != '\'')
    if inner.isEmpty || inner.length = rest.length then .error s
    else .ok (some (String.ofList inner), rest.drop (inner.length + 1))
  | _ =>
    let run := s.takeWhile fun c => !(c == '=' || c == '#' || Text.isBlank c)
    if run.isEmpty then .error s else .ok (some (String.ofList run), s.drop run.length)

/-- How many characters stand before the quote that ends a quoted value: the first one that no backslash precedes,
or else the last one. `last` is the last quote seen, and `escaped` whether a backslash precedes. -/
def closing? (quote : Char) (position : Nat) (escaped : Bool) (last : Option Nat) : List Char → Option Nat
  | [] => last
  | c :: s =>
    if c == quote then
      if escaped then closing? quote (position + 1) false (some position) s else some position
    else closing? quote (position + 1) (c == '\\') last s

/-- The characters that a backslash and a letter stand for. -/
def escapes : List (Char × Char) :=
  [('\\', '\\'), ('\'', '\''), ('"', '"'), ('a', '\x07'), ('b', '\x08'), ('f', '\x0c'), ('n', '\n'), ('r', '\r'),
   ('t', '\t'), ('v', '\x0b')]

/-- A quoted value with its escapes resolved. -/
def unescape (known : List (Char × Char)) : List Char → List Char
  | [] => []
  | [c] => [c]
  | c :: d :: s =>
    match if c == '\\' then known.lookup d else none with
    | some image => image :: unescape known s
    | none => c :: unescape known (d :: s)

/-- A value in quotes, its opening quote read. -/
def quotedValue (quote : Char) (known : List (Char × Char)) (s : List Char) : Reading String :=
  match closing? quote 0 false none s with
  | some n => .ok (String.ofList (unescape known (s.take n)), s.drop (n + 1))
  | none => .error (quote :: s)

/-- A bare value without the comment behind it. -/
def uncommented (s : List Char) : List Char :=
  match s with
  | [] => []
  | c :: rest =>
    if Text.isBlank c && (rest.dropWhile Text.isBlank).head? == some '#' then [] else c :: uncommented rest

/-- The value of a variable. -/
def value (s : List Char) : Reading String :=
  match s with
  | '\'' :: rest => quotedValue '\'' (escapes.take 2) rest
  | '"' :: rest => quotedValue '"' escapes rest
  | _ =>
    let line := s.takeWhile (· != '\n')
    .ok (Text.strip (String.ofList (uncommented line)), s.drop line.length)

/-- A text without the comment in front of it. -/
def skipComment (s : List Char) : List Char :=
  match skipBlanks s with
  | '#' :: rest => rest.dropWhile (· != '\n')
  | _ => s

/-- The text behind the end of a line, which must come next. -/
def lineEnd (s : List Char) : Reading Unit :=
  match skipBlanks s with
  | [] => .ok ((), [])
  | '\n' :: rest => .ok ((), rest)
  | _ => .error s

/-- What one line sets: a name, and a value where there is an equal sign. -/
def line (s : List Char) : Except (List Char) (Option (String × Option String) × List Char) := do
  let (name, s) ← name (skipExport s)
  let s := skipBlanks s
  let (value, s) ← match s with
    | '=' :: rest => (value (skipBlanks rest)).map fun (v, s) => (some v, s)
    | _ => .ok (none, s)
  let (_, s) ← lineEnd (skipComment s)
  return (name.map fun n => (n, value), s)

/-- What the lines of a text set, in order. The fuel is one more than the length of the text. -/
def linesFrom : (fuel : Nat) → List Char → List (String × Option String)
  | 0, _ => []
  | fuel + 1, s =>
    match s.dropWhile Text.isBlank with
    | [] => []
    | s =>
      match line s with
      | .ok (set?, rest) => set?.toList ++ linesFrom fuel rest
      | .error rest => linesFrom fuel ((rest.dropWhile (· != '\n')).drop 1)

/-- What a text sets, in order. -/
def lines (s : List Char) : List (String × Option String) :=
  linesFrom (s.length + 1) s

/-- A reference to a variable at the front of a text, with what stands in where there is none, and the rest. -/
def reference? : List Char → Option (String × String × List Char)
  | '$' :: '\x7b' :: s =>
    let name := s.takeWhile fun c => !(c == '\x7d' || c == ':')
    match s.drop name.length with
    | '\x7d' :: rest => some (String.ofList name, "", rest)
    | ':' :: '-' :: s =>
      let fallback := s.takeWhile (· != '\x7d')
      match s.drop fallback.length with
      | _ :: rest => some (String.ofList name, String.ofList fallback, rest)
      | [] => none
    | _ => none
  | _ => none

/-- A value with the variables that it refers to put in. The fuel is one more than the length of the value. -/
def resolveFrom (find : String → Option String) : (fuel : Nat) → List Char → List Char
  | 0, _ => []
  | _, [] => []
  | fuel + 1, c :: s =>
    match reference? (c :: s) with
    | some (name, fallback, rest) => ((find name).getD fallback).toList ++ resolveFrom find fuel rest
    | none => c :: resolveFrom find fuel s

/-- What lines set when their references are resolved: by the environment first, then by the lines before. -/
def resolved (environment : Variables) (lines : List (String × Option String)) : List (String × Option String) :=
  lines.foldl
    (fun found (name, value?) =>
      let find := fun name => (environment.reverse.lookup name).or ((found.lookup name).map (·.getD ""))
      Fields.put name (value?.map fun v => String.ofList (resolveFrom find (v.length + 1) v.toList)) found)
    []

/-- An environment with what a file sets in addition. -/
def extend (environment : Variables) (text : String) : Variables :=
  let fresh := (resolved environment (lines (Text.withLineFeeds text.toList))).filterMap fun (name, value?) =>
    if (environment.lookup name).isSome then none else value?.map (name, ·)
  environment ++ fresh

end EnvFile

end MetaSearch
