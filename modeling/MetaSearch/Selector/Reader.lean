import MetaSearch.Datum.Json
import MetaSearch.Selector.Forms
import MetaSearch.Text.Basic

/-!
# Reading selectors

`read?` reads a written selector. The alternatives are parted by commas, the conditions on one element follow each
other, and marks between them say how the elements stand to each other. Blanks and comments may stand around the
marks. A text that is no selector has no reading.
-/

namespace MetaSearch.Selector

namespace Reader

/-- Whether a character ends a line. -/
def isLineEnd (c : Char) : Bool := c == '\n' || c == '\r' || c == '\x0c'

/-- What follows a line end at the front of a text. -/
def lineEnd? : List Char → Option (List Char)
  | '\r' :: '\n' :: rest => some rest
  | c :: rest => if isLineEnd c then some rest else none
  | [] => none

/-- What follows one blank at the front of a text. -/
def blank? : List Char → Option (List Char)
  | ' ' :: rest | '\t' :: rest => some rest
  | s => lineEnd? s

/-- What follows the end of a comment. -/
def commentEnd? : List Char → Option (List Char)
  | [] => none
  | '*' :: '/' :: rest => some rest
  | _ :: rest => commentEnd? rest

/-- What follows one blank or comment at the front of a text. -/
def gap? : List Char → Option (List Char)
  | '/' :: '*' :: rest => commentEnd? rest
  | s => blank? s

/-- What follows the blanks and comments at the front of a text. -/
def skipGaps : (fuel : Nat) → List Char → List Char
  | 0, s => s
  | fuel + 1, s =>
    match gap? s with
    | some rest => skipGaps fuel rest
    | none => s

/-- A text without the blanks and comments at its front. -/
def skip (s : List Char) : List Char := skipGaps s.length s

/-- The number of characters at the end of a text that are blanks and comments. -/
def tailLength : List Char → Nat
  | [] => 0
  | c :: s => if (skip (c :: s)).isEmpty then s.length + 1 else tailLength s

/-- Whether a character is a hexadecimal digit. -/
def isHex (c : Char) : Bool := (Json.hexValue? c).isSome

/-- The character of a code point; nothing for one that no character can have. -/
def charOf? (n : Nat) : Option Char :=
  if n = 0 ∨ (0xD800 ≤ n ∧ n ≤ 0xDFFF) then some '\uFFFD'
  else if 0x10FFFF < n then none
  else some (Char.ofNat n)

/-- The character that follows a backslash as an escape, and what follows it. -/
def escape? (s : List Char) : Option (Char × List Char) :=
  let digits := (s.take 6).takeWhile isHex
  if !digits.isEmpty then
    let rest := s.drop digits.length
    (charOf? ((digits.filterMap Json.hexValue?).foldl (fun n d => 16 * n + d) 0)).map
      fun c => (c, (blank? rest).getD rest)
  else
    match s with
    | [] => some ('\uFFFD', [])
    | c :: rest => if isLineEnd c then none else some (c, rest)

/-- Whether a character may begin a name. -/
def startsName (c : Char) : Bool := c.isAlpha || c == '_' || 0xA0 ≤ c.toNat

/-- Whether a character may go on a name. -/
def continuesName (c : Char) : Bool := startsName c || c.isDigit || c == '-'

/-- The rest of a name and what follows it. -/
def nameRest : (fuel : Nat) → List Char → List Char × List Char
  | 0, s => ([], s)
  | fuel + 1, s =>
    match s with
    | '\\' :: rest =>
      match escape? rest with
      | some (c, rest) =>
        let (more, rest) := nameRest fuel rest
        (c :: more, rest)
      | none => ([], s)
    | c :: rest =>
      if continuesName c then
        let (more, rest) := nameRest fuel rest
        (c :: more, rest)
      else ([], s)
    | [] => ([], [])

/-- The name that begins a text, without its escapes, and what follows it. -/
def name? (s : List Char) : Option (String × List Char) :=
  let rest (front s : List Char) : String × List Char :=
    let (more, rest) := nameRest s.length s
    (String.ofList (front ++ more), rest)
  let begin? (front s : List Char) : Option (String × List Char) :=
    match s with
    | '\\' :: t => (escape? t).map fun (c, t) => rest (front ++ [c]) t
    | c :: t => if startsName c then some (rest (front ++ [c]) t) else none
    | [] => none
  match s with
  | '-' :: '-' :: t => some (rest ['-', '-'] t)
  | '-' :: t => begin? ['-'] t
  | s => begin? [] s

/-- The rest of a quoted text up to its closing quote, without escapes, and what follows it. -/
def quotedRest? (quote : Char) : (fuel : Nat) → List Char → Option (List Char × List Char)
  | 0, _ => none
  | fuel + 1, s =>
    match s with
    | [] => none
    | '\\' :: rest =>
      match lineEnd? rest with
      | some rest => quotedRest? quote fuel rest
      | none =>
        match rest with
        | [] => none
        | _ =>
          (escape? rest).bind fun (c, rest) =>
            (quotedRest? quote fuel rest).map fun (more, rest) => (c :: more, rest)
    | c :: rest =>
      if c == quote then some ([], rest)
      else if isLineEnd c then none
      else (quotedRest? quote fuel rest).map fun (more, rest) => (c :: more, rest)

/-- Names that follow each other without a gap, as one text, and what follows them. -/
def names? : (fuel : Nat) → List Char → Option (String × List Char)
  | 0, _ => none
  | fuel + 1, s =>
    (name? s).map fun (first, rest) =>
      match names? fuel rest with
      | some (more, rest) => (first ++ more, rest)
      | none => (first, rest)

/-- The quoted text or name that begins a text, and what follows it. -/
def value? (s : List Char) : Option (String × List Char) :=
  match s with
  | '"' :: rest => (quotedRest? '"' (rest.length + 1) rest).map fun (v, rest) => (String.ofList v, rest)
  | '\'' :: rest => (quotedRest? '\'' (rest.length + 1) rest).map fun (v, rest) => (String.ofList v, rest)
  | s => names? s.length s

/-- Values with commas between them up to a closing bracket, and what follows that. -/
def values? : (fuel : Nat) → List Char → Option (List String × List Char)
  | 0, _ => none
  | fuel + 1, s =>
    (value? s).bind fun (v, rest) =>
      match skip rest with
      | ')' :: rest => some ([v], rest)
      | ',' :: rest => (values? fuel (skip rest)).map fun (vs, rest) => (v :: vs, rest)
      | _ => none

/-- A name in front of a bar as the mark of a name space, with what follows the bar. -/
def space? (s : List Char) : Option (Option String × List Char) :=
  match s with
  | '|' :: rest => some (some "", rest)
  | '*' :: '|' :: rest => some (none, rest)
  | s =>
    match name? s with
    | some (name, '|' :: rest) => some (some name, rest)
    | _ => none

/-- The name of an element, or the asterisk that stands for any. -/
def tagName? (s : List Char) : Option (String × List Char) :=
  match s with
  | '*' :: rest => some ("*", rest)
  | s => name? s

/-- The condition on the name of an element that begins a text. Elements of pages are in no named name space. -/
def tag? (s : List Char) : Option (Condition × List Char) :=
  let bare := (tagName? s).map fun (name, rest) => (Condition.tag name, rest)
  match space? s with
  | none => bare
  | some (space, rest) =>
    match tagName? rest with
    | none => bare
    | some (name, rest) => some (if space.isNone then .tag name else .never, rest)

/-- The comparison that begins a text, and whether it is turned into its opposite. -/
def comparison? : List Char → Option (Comparison × Bool × List Char)
  | '=' :: rest => some (.equal, false, rest)
  | '!' :: '=' :: rest => some (.equal, true, rest)
  | '^' :: '=' :: rest => some (.begins, false, rest)
  | '$' :: '=' :: rest => some (.ends, false, rest)
  | '*' :: '=' :: rest => some (.holds, false, rest)
  | '~' :: '=' :: rest => some (.word, false, rest)
  | '|' :: '=' :: rest => some (.dashed, false, rest)
  | _ => none

/-- A text up to a closing square bracket behind gaps, dropped with it. -/
def closeSquare? (s : List Char) : Option (List Char) :=
  match skip s with
  | ']' :: rest => some rest
  | _ => none

/-- The condition on an attribute behind its name, and what follows the closing bracket. -/
def attributeTest? (name : String) (s : List Char) : Option (Condition × List Char) :=
  match closeSquare? s with
  | some rest => some (.attribute name none false, rest)
  | none => do
    let (comparison, opposite, rest) ← comparison? (skip s)
    let (value, rest) ← value? (skip rest)
    let condition (caseless : Bool) : Condition :=
      let c := Condition.attribute name (some (comparison, value)) caseless
      if opposite then .noneOf [[c]] else c
    let byName := String.ofList (name.toList.map Char.toLower) == "type"
    match closeSquare? rest with
    | some rest => return (condition byName, rest)
    | none =>
      match skip rest with
      | c :: rest =>
        let rest ← closeSquare? rest
        if c == 'i' || c == 'I' then return (condition true, rest)
        else if c == 's' || c == 'S' then return (condition false, rest)
        else none
      | [] => none

/-- The condition on an attribute that begins a text, behind its opening bracket. -/
def attribute? (s : List Char) : Option (Condition × List Char) :=
  let s := skip s
  let bare := (name? s).bind fun (name, rest) => attributeTest? name rest
  match space? s with
  | none => bare
  | some (_, rest) =>
    match (name? rest).bind fun (name, rest) => attributeTest? name rest with
    | some found => some found
    | none => bare

/-- A number and what follows it. -/
def number? (s : List Char) : Option (Nat × List Char) :=
  let digits := s.takeWhile Char.isDigit
  if digits.isEmpty then none
  else some (digits.foldl (fun n d => 10 * n + (d.toNat - 48)) 0, s.drop digits.length)

/-- A sign that may begin a text: whether it is a minus, and what follows it. -/
def sign (s : List Char) : Bool × List Char :=
  match s with
  | '-' :: rest => (true, rest)
  | '+' :: rest => (false, rest)
  | s => (false, s)

/-- What follows a word at the front of a text in any case. -/
def word? (word : String) (s : List Char) : Option (List Char) :=
  if Text.begins word.toList ((s.take word.length).map Char.toLower) then some (s.drop word.length) else none

/-- The number added behind the steps of a place, where there is one. -/
def offset (s : List Char) : Int × List Char :=
  match skip s with
  | '+' :: rest =>
    match number? (skip rest) with
    | some (n, rest) => ((n : Int), rest)
    | none => (0, s)
  | '-' :: rest =>
    match number? (skip rest) with
    | some (n, rest) => (-(n : Int), rest)
    | none => (0, s)
  | _ => (0, s)

/-- The steps and the offset of a place written with a number, and what follows them. -/
def numericPlace? (s : List Char) : Option ((Int × Int) × List Char) :=
  let (minus, s) := sign s
  let signed (n : Nat) : Int := if minus then -(n : Int) else n
  match number? s with
  | some (n, rest) =>
    match word? "n" rest with
    | some rest =>
      let (b, rest) := offset rest
      some ((signed n, b), rest)
    | none => some ((0, signed n), rest)
  | none =>
    (word? "n" s).map fun rest =>
      let (b, rest) := offset rest
      ((signed 1, b), rest)

/-- The steps and the offset of a place, and what follows them. -/
def place? (s : List Char) : Option ((Int × Int) × List Char) :=
  match numericPlace? s with
  | some found => some found
  | none =>
    match word? "even" s with
    | some rest => some ((2, 0), rest)
    | none => (word? "odd" s).map fun rest => ((2, 1), rest)

/-- What follows the word between a place and the selector of what counts. -/
def afterOf? (s : List Char) : Option (List Char) :=
  let afterGap (s : List Char) : Option (List Char) :=
    let rest := skip s
    if rest.length < s.length then some rest else none
  (afterGap s).bind fun rest => (word? "of" rest).bind afterGap

/-- A mark between two elements. -/
inductive Mark where
  | comma
  | stands (relation : Relation)
  deriving DecidableEq, Repr

/-- The mark of a character. -/
def markOf? : Char → Option Mark
  | ',' => some .comma
  | '>' => some (.stands .child)
  | '~' => some (.stands .beside)
  | '+' => some (.stands .next)
  | _ => none

/-- The mark that begins a text behind blanks and comments, and what follows it. A blank is a mark where none of
the other marks follows at once. -/
def mark? : (fuel : Nat) → List Char → Option (Mark × List Char)
  | 0, _ => none
  | fuel + 1, s =>
    match s with
    | [] => none
    | c :: rest =>
      match markOf? c with
      | some m => some (m, skip rest)
      | none =>
        match blank? s with
        | some after =>
          if after.head?.any fun c => (markOf? c).isSome then mark? fuel after
          else some (.stands .inside, skip after)
        | none => (gap? s).bind (mark? fuel)

/-- How a list of alternatives is read. -/
structure Manner where
  /-- It ends with a closing bracket. -/
  nested : Bool := false
  /-- Its alternatives begin with a relation to the element in question. -/
  relative : Bool := false
  /-- An empty place among the alternatives stands for nothing. -/
  forgiving : Bool := false

/-- A list of alternatives while it is read. -/
structure Draft where
  /-- The conditions on the element being read. -/
  conditions : List Condition := []
  started : Bool := false
  /-- The element before it and how it stands to that. -/
  left : Option (Relation × List Condition) := none
  /-- In relative alternatives: the elements before it with their relations, the newest first. -/
  chain : List (Relation × List Condition) := []
  lead : Relation := .inside
  done : List (List Condition) := []

namespace Draft

/-- The draft with one more condition on the element being read. -/
def with' (d : Draft) (c : Condition) : Draft :=
  { d with conditions := d.conditions ++ [c], started := true }

/-- The conditions on the element being read and on the one before it. -/
def complete (d : Draft) : List Condition :=
  match d.left with
  | some (relation, conditions) => d.conditions ++ [.stands relation conditions]
  | none => d.conditions

/-- The condition that a chain of relative elements makes up, given what follows the elements. -/
def chained : List (Relation × List Condition) → Option Condition → Option Condition
  | [], inner => inner
  | (relation, conditions) :: before, inner =>
    chained before (some (.holds relation (conditions ++ inner.toList)))

/-- The draft with the element being read put to the alternatives. -/
def finished (d : Draft) (m : Manner) : Draft :=
  if m.relative then
    { done := d.done ++ [(chained ((d.lead, d.conditions) :: d.chain) none).toList] }
  else { done := d.done ++ [d.complete] }

/-- The draft after a mark. -/
def afterMark? (d : Draft) (m : Manner) : Mark → Option Draft
  | .comma =>
    if d.started then some (d.finished m)
    else if m.forgiving then some { done := d.done ++ [[.never]] }
    else none
  | .stands relation =>
    if m.relative then
      if d.started then
        some { d with conditions := [], started := false, chain := (d.lead, d.conditions) :: d.chain,
                      lead := relation }
      else if d.lead ≠ .inside then none
      else some { d with lead := relation }
    else if d.started then
      some { done := d.done, left := some (relation, d.complete) }
    else none

/-- The alternatives of a draft at its end. -/
def result? (d : Draft) (m : Manner) : Option (List (List Condition)) :=
  if d.started then some (d.finished m).done
  else if m.forgiving && (d.done.isEmpty || d.left.isNone) then some (d.done ++ [[.never]])
  else none

end Draft

/-- What the part of a selector with a colon that begins a text is: a condition, or a condition that a list of
alternatives in brackets completes. -/
inductive Colon where
  | condition (c : Condition) (rest : List Char)
  | list (manner : Manner) (complete : List (List Condition) → Condition) (rest : List Char)

/-- The special forms in brackets. -/
def specialColon? (name : String) (s : List Char) : Option Colon :=
  let closed (s : List Char) : Option (List Char) :=
    match skip s with
    | ')' :: rest => some rest
    | _ => none
  if name == "contains" || name == "-soup-contains" || name == "-soup-contains-own" then
    (values? s.length s).map fun (vs, rest) => .condition (.tells vs (name == "-soup-contains-own")) rest
  else if name == "lang" then
    (values? s.length s).map fun (vs, rest) => .condition (.language vs) rest
  else if name == "nth-child" || name == "nth-last-child" then
    let fromEnd := name == "nth-last-child"
    (place? s).bind fun ((step, offset), rest) =>
      match closed rest with
      | some rest => some (.condition (.place step offset false fromEnd []) rest)
      | none => (afterOf? rest).map fun rest =>
          .list { nested := true } (fun among => .place step offset false fromEnd among) rest
  else if name == "nth-of-type" || name == "nth-last-of-type" then
    (place? s).bind fun ((step, offset), rest) =>
      (closed rest).map fun rest =>
        .condition (.place step offset true (name == "nth-last-of-type") []) rest
  else if name == "dir" then
    let side := match word? "ltr" s with
      | some rest => some (false, rest)
      | none => (word? "rtl" s).map (true, ·)
    side.bind fun (leftwards, rest) => (closed rest).map fun rest => .condition (.runs leftwards) rest
  else none

/-- The names of conditions that a list of alternatives completes. -/
def listColon? (name : String) (rest : List Char) : Option Colon :=
  if name == "not" then some (.list { nested := true } .noneOf rest)
  else if name == "has" then some (.list { nested := true, relative := true } .oneOf rest)
  else if name == "is" || name == "where" then
    some (.list { nested := true, forgiving := true } .oneOf rest)
  else if ["matches", "contains", "-soup-contains", "-soup-contains-own"].contains name then
    some (.list { nested := true } .oneOf rest)
  else if ["current", "host", "host-context"].contains name then
    some (.list { nested := true } (fun _ => .never) rest)
  else none

/-- The part of a selector behind a colon. -/
def colon? (s : List Char) : Option Colon :=
  (name? s).bind fun (name, rest) =>
    let name := String.ofList (name.toList.map Char.toLower)
    match rest with
    | '(' :: inner =>
      match specialColon? name (skip inner) with
      | some found => some found
      | none => listColon? name (skip inner)
    | rest =>
      (List.lookup name namedConditions).map fun conditions => .condition (.oneOf [conditions]) rest

/-- The list of alternatives that begins a text, and what follows it. Outside brackets it ends where only `tail`
characters are left. -/
def alternatives? : (fuel : Nat) → Manner → (tail : Nat) → Draft → List Char →
    Option (List (List Condition) × List Char)
  | 0, _, _, _, _ => none
  | fuel + 1, m, tail, d, s =>
    if s.length ≤ tail then
      if m.nested then none else (d.result? m).map (·, s)
    else
      match skip s with
      | ')' :: rest =>
        if m.nested && (d.started || m.forgiving) then (d.result? m).map (·, rest) else none
      | _ =>
        match s with
        | ':' :: rest =>
          match colon? rest with
          | some (.condition c rest) => alternatives? fuel m tail (d.with' c) rest
          | some (.list manner complete rest) =>
            match alternatives? fuel manner tail {} rest with
            | some (inner, rest) => alternatives? fuel m tail (d.with' (complete inner)) rest
            | none => none
          | none => none
        | '&' :: rest => alternatives? fuel m tail (d.with' .scope) rest
        | '#' :: rest =>
          match name? rest with
          | some (name, rest) => alternatives? fuel m tail (d.with' (.id name)) rest
          | none => none
        | '.' :: rest =>
          match name? rest with
          | some (name, rest) => alternatives? fuel m tail (d.with' (.ofClass name)) rest
          | none => none
        | '[' :: rest =>
          match attribute? rest with
          | some (c, rest) => alternatives? fuel m tail (d.with' c) rest
          | none => none
        | s =>
          match tag? s with
          | some (c, rest) => if d.started then none else alternatives? fuel m tail (d.with' c) rest
          | none =>
            match mark? (s.length + 1) s with
            | some (mark, rest) =>
              match d.afterMark? m mark with
              | some d => alternatives? fuel m tail d rest
              | none => none
            | none => none

end Reader

/-- The selector that a text writes. -/
def read? (text : String) : Option (List (List Condition)) :=
  let s := text.toList.map fun c => if c == '\x00' then '\uFFFD' else c
  let s' := Reader.skip s
  (Reader.alternatives? (2 * s.length + 2) {} (Reader.tailLength s') {} s').map (·.1)

end MetaSearch.Selector
