import MetaSearch.Template.Environment
import MetaSearch.Text.Blank

/-!
# Template actions

What stands between double braces: a variable, a quoted text, or one of the words `or`, `and`, `eq`, `ne` and
`join` with arguments. An action has a text, a condition a truth value; a form that is neither has none.
-/

namespace MetaSearch.Template

/-- A token of an action: a word, or the inside of a quoted text as written. -/
inductive Token where
  | word (s : String)
  | literal (s : String)
  deriving DecidableEq, Repr

/-- The inside of a quoted text whose opening quote is passed, and what follows its closing quote. A backslash
takes the next character with it, unless that is a line end. -/
def quotedBody : List Char → Option (List Char × List Char)
  | [] => none
  | '"' :: s => some ([], s)
  | '\\' :: c :: s =>
    if c == '\n' then none else (quotedBody s).map fun (body, rest) => ('\\' :: c :: body, rest)
  | c :: s => if c == '\\' then none else (quotedBody s).map fun (body, rest) => (c :: body, rest)

/-- The tokens of a text from left to right; `skip` counts the characters still to pass of the last one. -/
def tokensFrom (skip : Nat) : List Char → List Token
  | [] => []
  | c :: s =>
    match skip with
    | skip + 1 => tokensFrom skip s
    | 0 =>
      if Text.isBlank c then tokensFrom 0 s
      else
        let word := (c :: s).takeWhile (!Text.isBlank ·)
        match if c == '"' then quotedBody s else none with
        | some (body, _) => .literal (String.ofList body) :: tokensFrom (body.length + 1) s
        | none => .word (String.ofList word) :: tokensFrom (word.length - 1) s

/-- The tokens of a text. -/
def tokens (s : List Char) : List Token :=
  tokensFrom 0 s

/-- The value of a token: a literal and a word without a point in front stand for themselves. -/
def Token.value (env : Environment) : Token → Datum
  | .literal s => .text s
  | .word s => if Text.startsWith s "." then env.resolve s else .text s

mutual

/-- A value as templates print it: nothing for null and false, the items of a list with commas between. -/
def render : Datum → String
  | .null => ""
  | .bool b => if b then "true" else ""
  | .list xs => ",".intercalate (renderAll xs)
  | other => other.printed

/-- The printed items of a list. -/
def renderAll : List Datum → List String
  | [] => []
  | x :: xs => render x :: renderAll xs

end

/-- Whether two tokens print alike; nothing unless there are two. -/
def compare? (env : Environment) : List Token → Option Bool
  | [a, b] => some (render (a.value env) == render (b.value env))
  | _ => none

/-- The truth value of a condition; nothing for an unsupported form. -/
def condition? (env : Environment) (s : List Char) : Option Bool :=
  match tokens s with
  | [] => none
  | .literal s :: _ => some (!s.isEmpty)
  | .word op :: args =>
    if op == "or" then if args.isEmpty then none else some (args.any fun a => (a.value env).isTruthy)
    else if op == "and" then if args.isEmpty then none else some (args.all fun a => (a.value env).isTruthy)
    else if op == "eq" then compare? env args
    else if op == "ne" then (compare? env args).map (!·)
    else if Text.startsWith op "." && args.isEmpty then some (Token.value env (.word op)).isTruthy
    else none

/-- The first value that counts as something. -/
def firstTruthy (env : Environment) : List Token → String
  | [] => ""
  | a :: rest => if (a.value env).isTruthy then render (a.value env) else firstTruthy env rest

/-- The last value where all count as something. -/
def lastTruthy (env : Environment) (last : Datum) : List Token → String
  | [] => render last
  | a :: rest => if (a.value env).isTruthy then lastTruthy env (a.value env) rest else ""

/-- The text of an action; nothing for an unsupported form. -/
def action? (env : Environment) (s : List Char) : Option String :=
  match tokens s with
  | [] => none
  | .literal s :: args => if args.isEmpty then some s else none
  | .word op :: args =>
    if Text.startsWith op "." then if args.isEmpty then some (render (Token.value env (.word op))) else none
    else if op == "or" then if args.isEmpty then none else some (firstTruthy env args)
    else if op == "and" then if args.isEmpty then none else some (lastTruthy env (.text "") args)
    else if op == "eq" then (compare? env args).map fun equal => if equal then "true" else "false"
    else if op == "ne" then (compare? env args).map fun equal => if equal then "false" else "true"
    else if op == "join" then
      match args with
      | [value, sep] =>
        match value.value env with
        | .list xs => some ((render (sep.value env)).intercalate (renderAll xs))
        | other => some (render other)
      | _ => none
    else none

end MetaSearch.Template
