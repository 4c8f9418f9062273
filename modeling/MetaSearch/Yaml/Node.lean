import MetaSearch.Yaml.Scan

/-!
# From tokens to nodes

A document is a tree of scalars, sequences and mappings, with anchors on nodes and aliases for them. `Node.ofTokens?`
reads the single document of a row of tokens; nothing comes of tokens that make up no document or several.
-/

namespace MetaSearch.Yaml

/-- A node as it is written, tags with their prefixes put in. -/
inductive Node where
  /-- A scalar; whether it is plain decides whether its text is looked into. -/
  | scalar (tag : Option String) (text : String) (plain : Bool)
  | sequence (tag : Option String) (items : List Node)
  | mapping (tag : Option String) (entries : List (Node × Node))
  | anchored (name : String) (node : Node)
  | reference (name : String)
  deriving Repr, Inhabited

namespace Node

/-- An empty plain scalar, where a node is left out. -/
def blank : Node := .scalar none "" true

/-- The handles of tags with the prefixes they stand for, which hold in every document. -/
def standardHandles : List (String × String) := [("!", "!"), ("!!", "tag:yaml.org,2002:")]

/-- A tag with the prefix of its handle put in. -/
def fullTag? (handles : List (String × String)) (t : TagName) : Option String :=
  match t.handle with
  | none => some t.suffix
  | some h => (List.lookup h handles).map (· ++ t.suffix)

/-- What is said about a node in front of it: an anchor and a tag, in any order. -/
structure Properties where
  anchor : Option String := none
  tag : Option TagName := none
  deriving DecidableEq, Repr

/-- The properties in front of a node, and the tokens behind them. -/
def properties : List Token → Properties × List Token
  | .anchor a :: .tag t :: rest => (⟨some a, some t⟩, rest)
  | .tag t :: .anchor a :: rest => (⟨some a, some t⟩, rest)
  | .anchor a :: rest => (⟨some a, none⟩, rest)
  | .tag t :: rest => (⟨none, some t⟩, rest)
  | rest => ({}, rest)

/-- A node under its anchor, if it has one. -/
def underAnchor (anchor : Option String) (node : Node) : Node :=
  match anchor with
  | some name => .anchored name node
  | none => node

/-- Whether a scalar's text is looked into: plain ones without a tag are, and all that have the tag for that. -/
def isPlain (tag : Option String) (plain : Bool) : Bool :=
  match tag with
  | none => plain
  | some t => t == "!"

/-- Whether a token ends an entry of a mapping laid out by indentation, so that what it could hold is left out. -/
def endsBlockEntry : List Token → Bool
  | .key :: _ | .value :: _ | .blockEnd :: _ | [] => true
  | _ => false

/-- Whether a token ends an entry between brackets. -/
def endsFlowEntry (closing : Token) (tokens : List Token) : Bool :=
  tokens.head? == some .flowEntry || tokens.head? == some closing

/-- Where a node stands, which decides which collections may begin there. -/
inductive Position where
  | flow | block | blockEntry
  deriving DecidableEq, Repr

/-- The tokens behind the comma that parts an entry from the one before. -/
def afterComma? (isFirst : Bool) (tokens : List Token) : Option (List Token) :=
  if isFirst then some tokens
  else
    match tokens with
    | .flowEntry :: rest => some rest
    | _ => none

/-- The node that is left out behind its properties, of which there must be some. -/
def left? (said : Properties) (tag : Option String) (rest : List Token) : Option (Node × List Token) :=
  if said = {} then none else some (.scalar tag "" (isPlain tag true), rest)

mutual

/-- The node at the front of a row of tokens, and the tokens behind it. -/
def read? (handles : List (String × String)) (position : Position) :
    (fuel : Nat) → List Token → Option (Node × List Token)
  | 0, _ => none
  | fuel + 1, tokens =>
    match tokens with
    | .reference name :: rest => some (.reference name, rest)
    | _ => do
      let (said, rest) := properties tokens
      let tag ← said.tag.elim (some none) fun t => (fullTag? handles t).map some
      let (node, rest) ← content? handles position said tag fuel rest
      return (underAnchor said.anchor node, rest)

/-- The node behind its properties, and the tokens behind it. -/
def content? (handles : List (String × String)) (position : Position) (said : Properties)
    (tag : Option String) : (fuel : Nat) → List Token → Option (Node × List Token)
  | 0, _ => none
  | fuel + 1, tokens =>
    match tokens with
    | .scalar text plain :: rest => some (.scalar tag text (isPlain tag plain), rest)
    | .flowSequenceStart :: rest =>
      (flowItems? handles true fuel rest).map fun (items, rest) => (.sequence tag items, rest)
    | .flowMappingStart :: rest =>
      (flowEntries? handles true fuel rest).map fun (entries, rest) => (.mapping tag entries, rest)
    | .blockEntry :: _ =>
      if position = .blockEntry then
        (blockItems? handles false fuel tokens).map fun (items, rest) => (.sequence tag items, rest)
      else left? said tag tokens
    | .sequenceStart :: rest =>
      if position = .flow then left? said tag tokens
      else (blockItems? handles true fuel rest).map fun (items, rest) => (.sequence tag items, rest)
    | .mappingStart :: rest =>
      if position = .flow then left? said tag tokens
      else (blockEntries? handles fuel rest).map fun (entries, rest) => (.mapping tag entries, rest)
    | _ => left? said tag tokens

/-- The items of a sequence laid out by indentation. One that `isIndented` ends with a token of its own, one at
the column of its mapping ends where no item follows. -/
def blockItems? (handles : List (String × String)) (isIndented : Bool) :
    (fuel : Nat) → List Token → Option (List Node × List Token)
  | 0, _ => none
  | fuel + 1, tokens =>
    match tokens with
    | .blockEntry :: rest => do
      let isLeftOut := rest.head? == some .blockEntry || rest.head? == some .blockEnd ||
        (!isIndented && endsBlockEntry rest)
      let (node, rest) ←
        if isLeftOut then some (blank, rest) else read? handles .block fuel rest
      let (more, rest) ← blockItems? handles isIndented fuel rest
      return (node :: more, rest)
    | .blockEnd :: rest => some ([], if isIndented then rest else tokens)
    | _ => if isIndented then none else some ([], tokens)

/-- The entries of a mapping laid out by indentation. -/
def blockEntries? (handles : List (String × String)) :
    (fuel : Nat) → List Token → Option (List (Node × Node) × List Token)
  | 0, _ => none
  | fuel + 1, tokens =>
    match tokens with
    | .key :: rest => do
      let (key, rest) ←
        if endsBlockEntry rest then some (blank, rest) else read? handles .blockEntry fuel rest
      let (value, rest) ←
        match rest with
        | .value :: rest =>
          if endsBlockEntry rest then some (blank, rest) else read? handles .blockEntry fuel rest
        | rest => some (blank, rest)
      let (more, rest) ← blockEntries? handles fuel rest
      return ((key, value) :: more, rest)
    | .blockEnd :: rest => some ([], rest)
    | _ => none

/-- The key and value behind the mark of a key between brackets. -/
def flowPair? (handles : List (String × String)) (closing : Token) :
    (fuel : Nat) → List Token → Option ((Node × Node) × List Token)
  | 0, _ => none
  | fuel + 1, tokens => do
    let (key, rest) ←
      if tokens.head? == some .value || endsFlowEntry closing tokens then some (blank, tokens)
      else read? handles .flow fuel tokens
    let (value, rest) ←
      match rest with
      | .value :: rest =>
        if endsFlowEntry closing rest then some (blank, rest) else read? handles .flow fuel rest
      | rest => some (blank, rest)
    return ((key, value), rest)

/-- The items of a sequence in brackets. A key makes a mapping of one entry. -/
def flowItems? (handles : List (String × String)) (isFirst : Bool) :
    (fuel : Nat) → List Token → Option (List Node × List Token)
  | 0, _ => none
  | fuel + 1, tokens =>
    match tokens with
    | .flowSequenceEnd :: rest => some ([], rest)
    | _ => do
      match ← afterComma? isFirst tokens with
      | .flowSequenceEnd :: rest => some ([], rest)
      | .key :: rest => do
        let (entry, rest) ← flowPair? handles .flowSequenceEnd fuel rest
        let (more, rest) ← flowItems? handles false fuel rest
        return (.mapping none [entry] :: more, rest)
      | rest => do
        let (node, rest) ← read? handles .flow fuel rest
        let (more, rest) ← flowItems? handles false fuel rest
        return (node :: more, rest)

/-- The entries of a mapping in braces. A node without the mark of a key is a key without a value. -/
def flowEntries? (handles : List (String × String)) (isFirst : Bool) :
    (fuel : Nat) → List Token → Option (List (Node × Node) × List Token)
  | 0, _ => none
  | fuel + 1, tokens =>
    match tokens with
    | .flowMappingEnd :: rest => some ([], rest)
    | _ => do
      match ← afterComma? isFirst tokens with
      | .flowMappingEnd :: rest => some ([], rest)
      | .key :: rest => do
        let (entry, rest) ← flowPair? handles .flowMappingEnd fuel rest
        let (more, rest) ← flowEntries? handles false fuel rest
        return (entry :: more, rest)
      | rest => do
        let (node, rest) ← read? handles .flow fuel rest
        let (more, rest) ← flowEntries? handles false fuel rest
        return ((node, blank) :: more, rest)

end

/-- What the directives in front of a document declare. -/
structure Declared where
  hasVersion : Bool := false
  handles : List (String × String) := []
  deriving DecidableEq, Repr

/-- The directives in front of a document, and the tokens behind them. -/
def directives? (declared : Declared) : List Token → Option (Declared × List Token)
  | .directive (.version major) :: rest =>
    if declared.hasVersion || major != 1 then none
    else directives? { declared with hasVersion := true } rest
  | .directive (.tag handle start) :: rest =>
    if (List.lookup handle declared.handles).isSome then none
    else directives? { declared with handles := (handle, start) :: declared.handles } rest
  | .directive .other :: rest => directives? declared rest
  | rest => some (declared, rest)

/-- The tokens behind marks that end documents. -/
def afterEnds : List Token → List Token
  | .documentEnd :: rest => afterEnds rest
  | rest => rest

/-- The tokens behind the mark that may end a document. -/
def afterEnd : List Token → List Token
  | .documentEnd :: rest => rest
  | rest => rest

/-- Whether a document has no content in front of a token. -/
def endsDocument : Option Token → Bool
  | some (.directive _) | some .documentStart | some .documentEnd | some .streamEnd | none => true
  | _ => false

/-- The document at the front of a row of tokens, and the tokens behind it. -/
def document? (tokens : List Token) : Option (Node × List Token) :=
  match tokens with
  | .directive _ :: _ | .documentStart :: _ => do
    let (declared, rest) ← directives? {} tokens
    match rest with
    | .documentStart :: rest =>
      if endsDocument rest.head? then some (blank, rest)
      else read? (declared.handles ++ standardHandles) .block (4 * tokens.length + 4) rest
    | _ => none
  | _ => read? standardHandles .block (4 * tokens.length + 4) tokens

/-- The single document of a row of tokens; absent where there is none at all. -/
def ofTokens? (tokens : List Token) : Option (Option Node) :=
  if tokens.head? == some .streamEnd then some none
  else do
    let (node, rest) ← document? tokens
    if afterEnds (afterEnd rest) == [.streamEnd] then some (some node) else none

end Node

end MetaSearch.Yaml
