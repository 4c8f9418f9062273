import MetaSearch.Datum.Json
import MetaSearch.Number.Numeral
import MetaSearch.Pattern.Syntax

/-!
# Reading patterns

The written form of patterns. A text that is no pattern has no reading: an unbalanced bracket, a repetition of
nothing, an unknown escape, a reference to a group that is missing or still open, or a look behind of varying
width.
-/

namespace MetaSearch.Pattern

/-- What a reading knows so far: the rest of the text, the groups opened, the groups still open, the group
names, groups tested before they are known, the group count at which the innermost look behind began, and the
options set for the whole pattern. -/
structure ReadState where
  rest : List Char
  groups : Nat := 0
  openGroups : List Nat := []
  names : List (String × Nat) := []
  tested : List Nat := []
  behind : Option Nat := none
  global : Options := {}

/-- A step of reading. -/
abbrev Read := StateT ReadState Option

/-- The next character, not taken. -/
def peek : Read (Option Char) := do return (← get).rest.head?

/-- The next character, taken. -/
def next : Read (Option Char) := do
  match (← get).rest with
  | [] => return none
  | c :: r => modify ({ · with rest := r }); return some c

/-- The next character, taken if it is `c`. -/
def accept (c : Char) : Read Bool := do
  if (← peek) == some c then discard next; return true
  else return false

/-- No reading unless the next character is `c`. -/
def expect (c : Char) : Read Unit := do
  if ← accept c then return () else failure

/-- The characters of a class at the front, at most `limit` of them, taken. -/
def takeRun (limit : Nat) (p : Char → Bool) : Read (List Char) := do
  let run := ((← get).rest.takeWhile p).take limit
  modify fun s => { s with rest := s.rest.drop run.length }
  return run

/-- The text up to the closing character, both taken; no reading where it is empty or unclosed. -/
def takeUntil (close : Char) : Read String := do
  let s ← get
  let body := s.rest.takeWhile (· != close)
  if body.isEmpty then failure
  match s.rest.drop body.length with
  | [] => failure
  | _ :: r => set { s with rest := r }; return String.ofList body

/-- Whether a text can name a group: letters, numbers and underscores, no number first. -/
def isGroupName (s : String) : Bool :=
  match s.toList with
  | [] => false
  | c :: r =>
    (c == '_' || (Text.isAlphanumeric c && !Text.isDigitSign c)) && r.all Text.isWordChar

/-- Whether a text is a group number. -/
def isGroupNumber (s : String) : Bool :=
  !s.isEmpty && s.toList.all Char.isDigit

/-- The number spelled by hexadecimal digits. -/
def hexNumber (ds : List Char) : Nat :=
  (ds.filterMap Json.hexValue?).foldl (fun n d => 16 * n + d) 0

/-- The number spelled by octal digits. -/
def octalNumber (ds : List Char) : Nat :=
  ds.foldl (fun n d => 8 * n + (d.toNat - 48)) 0

/-- The character with a given code point; none for a surrogate or beyond the last. -/
def charOf? (n : Nat) : Option Char :=
  if n.isValidChar then some (Char.ofNat n) else none

/-- Whether a character is an octal digit. -/
def isOctal (c : Char) : Bool := '0' ≤ c && c ≤ '7'

/-- Whether a character is a hexadecimal digit. -/
def isHex (c : Char) : Bool := (Json.hexValue? c).isSome

/-- Escapes for characters that have no visible form. -/
def controlEscape? : Char → Option Char
  | 'a' => some '\x07'
  | 'f' => some '\x0c'
  | 'n' => some '\n'
  | 'r' => some '\r'
  | 't' => some '\t'
  | 'v' => some '\x0b'
  | '\\' => some '\\'
  | _ => none

/-- Escapes for named classes. -/
def categoryEscape? : Char → Option ClassItem
  | 'd' => some (.category false .digit)
  | 'D' => some (.category true .digit)
  | 's' => some (.category false .space)
  | 'S' => some (.category true .space)
  | 'w' => some (.category false .word)
  | 'W' => some (.category true .word)
  | _ => none

/-- A character given by its code in `count` hexadecimal digits. -/
def codeEscape (count : Nat) : Read Char := do
  let ds ← takeRun count isHex
  if ds.length < count then failure
  match charOf? (hexNumber ds) with
  | some c => return c
  | none => failure

/-- The item of a character class that an escape stands for. -/
def classEscape : Read ClassItem := do
  match ← next with
  | none => failure
  | some 'b' => return .single '\x08'
  | some 'x' => return .single (← codeEscape 2)
  | some 'u' => return .single (← codeEscape 4)
  | some 'U' => return .single (← codeEscape 8)
  | some c =>
    match controlEscape? c, categoryEscape? c with
    | some k, _ => return .single k
    | none, some item => return item
    | none, none =>
      if isOctal c then
        let ds := c :: (← takeRun 2 isOctal)
        if 255 < octalNumber ds then failure else return .single (Char.ofNat (octalNumber ds))
      else if c.isAlphanum then failure
      else return .single c

/-- The items of a character class up to its closing bracket; `fuel` bounds their number. -/
def classItems : (fuel : Nat) → List ClassItem → Read (List ClassItem)
  | 0, _ => failure
  | fuel + 1, items => do
    match ← next with
    | none => failure
    | some c =>
      if c == ']' && !items.isEmpty then return items.reverse
      let low ← if c == '\\' then classEscape else pure (.single c)
      if ← accept '-' then
        match ← next with
        | none => failure
        | some ']' => return (.single '-' :: low :: items).reverse
        | some c =>
          let high ← if c == '\\' then classEscape else pure (.single c)
          match low, high with
          | .single a, .single b =>
            if b < a then failure else classItems fuel (.range a b :: items)
          | _, _ => failure
      else classItems fuel (low :: items)

/-- The option that a letter stands for, switched to `on`; no reading for an unknown letter. -/
def setOption (on : Bool) (o : Options) : Char → Option Options
  | 'i' => some { o with caseless := on }
  | 'm' => some { o with multiline := on }
  | 's' => some { o with dotAll := on }
  | 'x' => some { o with verbose := on }
  | 'a' => if on then some { o with ascii := true } else none
  | 'u' => if on then some { o with ascii := false } else none
  | _ => none

/-- Options applied letter by letter. -/
def setOptions (on : Bool) (o : Options) (letters : List Char) : Option Options :=
  letters.foldlM (setOption on) o

/-- Whether a letter names an option. -/
def isOptionLetter (c : Char) : Bool := "imsxauL".toList.contains c

/-- A reference to a group, which must be known, closed and older than the look behind it stands in. -/
def referTo (o : Options) (index : Nat) : Read Node := do
  let s ← get
  if s.groups < index || s.openGroups.contains index then failure
  match s.behind with
  | some n => if n < index then failure else return .reference o index
  | none => return .reference o index

/-- The node that an escape outside a class stands for. -/
def escape (o : Options) : Read Node := do
  let single (c : Char) : Node := .class o false [.single c]
  match ← next with
  | none => failure
  | some 'A' => return .anchor o.ascii .start
  | some 'Z' => return .anchor o.ascii .textFinish
  | some 'b' => return .anchor o.ascii .edge
  | some 'B' => return .anchor o.ascii .noEdge
  | some 'x' => return single (← codeEscape 2)
  | some 'u' => return single (← codeEscape 4)
  | some 'U' => return single (← codeEscape 8)
  | some '0' => return single (Char.ofNat (octalNumber (← takeRun 2 isOctal)))
  | some c =>
    match controlEscape? c, categoryEscape? c with
    | some k, _ => return single k
    | none, some item => return .class o false [item]
    | none, none =>
      if c.isDigit then
        let second ← takeRun 1 Char.isDigit
        let third := (← get).rest.head?
        match second, third with
        | [d], some e =>
          if isOctal c && isOctal d && isOctal e then
            discard next
            let n := octalNumber [c, d, e]
            if 255 < n then failure else return single (Char.ofNat n)
          else referTo o (Numeral.ofDigits ([c, d].map fun x => x.toNat - 48))
        | ds, _ => referTo o (Numeral.ofDigits ((c :: ds).map fun x => x.toNat - 48))
      else if c.isAlpha then failure
      else return single c

/-- Whether a node is an anchor, which cannot be repeated. -/
def Node.isAnchor : Node → Bool
  | anchor .. => true
  | _ => false

/-- Whether a node is a repetition, which cannot be repeated directly. -/
def Node.isRepeat : Node → Bool
  | .repeat .. => true
  | _ => false

/-- The nodes in sequence. -/
def sequence : List Node → Node
  | [] => .empty
  | [n] => n
  | n :: ns => .seq n (sequence ns)

/-- The greatest number a repetition may be written with. -/
def repeatLimit : Nat := 4294967295

/-- The bounds of a counted repetition after its opening brace, if the text has that form. -/
def counts? (s : List Char) : Option (Nat × Option Nat × List Char) :=
  let low := s.takeWhile Char.isDigit
  let rest := s.drop low.length
  let value (ds : List Char) : Nat := Numeral.ofDigits (ds.map fun c => c.toNat - 48)
  let min := value low
  match rest with
  | '\x7d' :: r => if low.isEmpty then none else some (min, some min, r)
  | ',' :: r =>
    let high := r.takeWhile Char.isDigit
    match r.drop high.length with
    | '\x7d' :: r => some (min, if high.isEmpty then none else some (value high), r)
    | _ => none
  | _ => none

/-- The mood that the mark after a repetition stands for, the mark taken. -/
def moodMark : Read Mood := do
  match ← peek with
  | some '?' => discard next; return .lazy
  | some '+' => discard next; return .possessive
  | _ => return .greedy

/-- The last item, repeated; no reading where there is none or it cannot be repeated. A grouped body counts as
repeatable whatever it holds. -/
def repeated (min : Nat) (max : Option Nat) : List (Bool × Node) → Read (List (Bool × Node))
  | [] => failure
  | (grouped, item) :: items => do
    if !grouped && (item.isAnchor || item.isRepeat) then failure
    if repeatLimit ≤ min || (max.map (fun m => decide (repeatLimit ≤ m || m < min))).getD false then failure
    let mood ← moodMark
    return (false, .repeat min max mood item) :: items

mutual

/-- A choice of sequences up to a closing parenthesis or the end. -/
def choice : (fuel : Nat) → (nested : Bool) → Options → Read Node
  | 0, _, _ => failure
  | fuel + 1, nested, o => do
    let a ← items fuel (!nested) o []
    if ← accept '|' then
      let s ← get
      let o := if nested then o else s.global
      return .alt a (← moreChoice fuel nested o)
    else return a

/-- The sequences of a choice after its first bar. -/
def moreChoice : (fuel : Nat) → (nested : Bool) → Options → Read Node
  | 0, _, _ => failure
  | fuel + 1, nested, o => do
    let a ← items fuel false o []
    if ← accept '|' then return .alt a (← moreChoice fuel nested o) else return a

/-- The items of a sequence up to a bar, a closing parenthesis or the end, after those of `done`, last first,
each with a mark for grouped bodies; `first` holds at the start of a pattern, where options for all of it may
stand. -/
def items : (fuel : Nat) → (first : Bool) → Options → List (Bool × Node) → Read Node
  | 0, _, _, _ => failure
  | fuel + 1, first, o, done => do
    let add (n : Node) : Read Node := items fuel first o ((false, n) :: done)
    let finish : Node := sequence (done.reverse.map (·.2))
    match ← peek with
    | none => return finish
    | some '|' => return finish
    | some ')' => return finish
    | some c =>
      discard next
      if o.verbose && (c == ' ' || ('\t' ≤ c && c ≤ '\r')) then items fuel first o done
      else if o.verbose && c == '#' then
        modify fun s => { s with rest := (s.rest.dropWhile (· != '\n')).drop 1 }
        items fuel first o done
      else
        match c with
        | '\\' => add (← escape o)
        | '[' =>
          let negated ← accept '^'
          let members ← classItems ((← get).rest.length + 1) []
          add (.class o negated members)
        | '*' => items fuel first o (← repeated 0 none done)
        | '+' => items fuel first o (← repeated 1 none done)
        | '?' => items fuel first o (← repeated 0 (some 1) done)
        | '\x7b' =>
          match counts? (← get).rest with
          | some (min, max, r) =>
            modify ({ · with rest := r })
            items fuel first o (← repeated min max done)
          | none => add (.class o false [.single c])
        | '.' => add (.any o.dotAll)
        | '^' => add (.anchor o.ascii (if o.multiline then .lineStart else .start))
        | '$' => add (.anchor o.ascii (if o.multiline then .lineFinish else .finish))
        | '(' =>
          if ← accept '?' then extension fuel first o done
          else
            let s ← get
            let index := s.groups + 1
            set { s with groups := index, openGroups := index :: s.openGroups }
            let body ← choice fuel true o
            expect ')'
            modify fun s => { s with openGroups := s.openGroups.erase index }
            items fuel first o ((true, .group index body) :: done)
        | c => add (.class o false [.single c])

/-- What follows an opening parenthesis and a question mark, and then the items after it. -/
def extension : (fuel : Nat) → (first : Bool) → Options → List (Bool × Node) → Read Node
  | 0, _, _, _ => failure
  | fuel + 1, first, o, done => do
    let add (n : Node) : Read Node := items fuel first o ((true, n) :: done)
    let look (ahead negated : Bool) : Read Node := do
      let before := (← get).behind
      if !ahead && before.isNone then modify fun s => { s with behind := some s.groups }
      let body ← choice fuel true o
      if !ahead then modify ({ · with behind := before })
      expect ')'
      if ahead then add (.look true negated 0 body)
      else
        match body.width with
        | (lo, some hi) => if lo = hi then add (.look false negated lo body) else failure
        | _ => failure
    match ← next with
    | none => failure
    | some 'P' =>
      if ← accept '<' then
        let name ← takeUntil '>'
        let s ← get
        if !isGroupName name || (s.names.any (·.1 == name)) then failure
        let index := s.groups + 1
        set { s with
          groups := index, openGroups := index :: s.openGroups, names := s.names ++ [(name, index)] }
        let body ← choice fuel true o
        expect ')'
        modify fun s => { s with openGroups := s.openGroups.erase index }
        add (.group index body)
      else if ← accept '=' then
        let name ← takeUntil ')'
        match (← get).names.find? (·.1 == name) with
        | some (_, index) => add (← referTo o index)
        | none => failure
      else failure
    | some ':' =>
      let body ← choice fuel true o
      expect ')'
      add body
    | some '#' =>
      let rest := (← get).rest.dropWhile (· != ')')
      if rest.isEmpty then failure
      modify ({ · with rest := rest.drop 1 })
      items fuel first o done
    | some '=' => look true false
    | some '!' => look true true
    | some '<' =>
      if ← accept '=' then look false false
      else if ← accept '!' then look false true
      else failure
    | some '(' =>
      let name ← takeUntil ')'
      let index ←
        if isGroupNumber name then
          let n := Numeral.ofDigits (name.toList.map fun c => c.toNat - 48)
          if n = 0 then failure else pure n
        else
          match (← get).names.find? (·.1 == name) with
          | some (_, n) => pure n
          | none => failure
      modify fun s => { s with tested := index :: s.tested }
      let yes ← items fuel false o []
      let no ← if ← accept '|' then items fuel false o [] else pure .empty
      expect ')'
      add (.condition index yes no)
    | some '>' =>
      let body ← choice fuel true o
      expect ')'
      add (.atomic body)
    | some c =>
      if !isOptionLetter c && c != '-' then failure
      let on ← if c == '-' then pure [] else do
        let more ← takeRun 64 isOptionLetter
        pure (c :: more)
      let close ← if c == '-' then pure (some '-') else next
      match close with
      | some ')' =>
        if !first || !done.isEmpty then failure
        match setOptions true (← get).global on with
        | some global =>
          modify ({ · with global })
          items fuel first global done
        | none => failure
      | some ':' =>
        match setOptions true o on with
        | some inner =>
          let body ← choice fuel true inner
          expect ')'
          add body
        | none => failure
      | some '-' =>
        let off ← takeRun 64 isOptionLetter
        if off.isEmpty || on.any (off.contains ·) then failure
        expect ':'
        match (setOptions true o on).bind (setOptions false · off) with
        | some inner =>
          let body ← choice fuel true inner
          expect ')'
          add body
        | none => failure
      | _ => failure

end

/-- The pattern that a text spells. -/
def read? (text : String) : Option Program :=
  let cs := text.toList
  match (choice (4 * cs.length + 8) false {}).run { rest := cs } with
  | some (root, s) =>
    if s.rest.isEmpty && s.tested.all (· ≤ s.groups) then some ⟨root, s.groups, s.names⟩ else none
  | none => none

end MetaSearch.Pattern
