import MetaSearch.Text.Basic
import MetaSearch.Yaml.Node
import MetaSearch.Yaml.Plain

/-!
# What nodes stand for

Aliases stand for the nodes they name, entries merged into a mapping for entries of its own, and tags say what a
node is read as. A document is read from the outside inwards: a collection is there before it is filled, and the
collections inside of it are filled after it. `read` takes a text to the datum that its document stands for.
-/

namespace MetaSearch.Yaml

/-! ## Bytes in letters

Bytes are written three at a time as four letters of sixty-four, with equals signs in place of letters that a last
group lacks. Characters that are no such letter are passed over.
-/

namespace Binary

/-- The number of a letter. -/
def value? (c : Char) : Option Nat :=
  if 'A' ≤ c && c ≤ 'Z' then some (c.toNat - 65)
  else if 'a' ≤ c && c ≤ 'z' then some (c.toNat - 71)
  else if c.isDigit then some (c.toNat + 4)
  else if c == '+' then some 62
  else if c == '/' then some 63
  else none

/-- The bytes of groups of four letters; the last group may be shorter, and a single letter makes no byte. -/
def bytes : List Nat → List UInt8
  | a :: b :: c :: d :: rest =>
    (4 * a + b / 16).toUInt8 :: (16 * (b % 16) + c / 4).toUInt8 :: (64 * (c % 4) + d).toUInt8 :: bytes rest
  | [a, b, c] => [(4 * a + b / 16).toUInt8, (16 * (b % 16) + c / 4).toUInt8]
  | [a, b] => [(4 * a + b / 16).toUInt8]
  | _ => []

/-- The bytes that a text of ASCII characters spells; absent where its last group is incomplete. -/
def decode? (text : String) : Option (List UInt8) :=
  let s := text.toList
  let letters := (s.takeWhile (· != '=')).filterMap value?
  let padding := (s.filter (· == '=')).length
  if s.any fun c => 128 ≤ c.toNat then none
  else
    match letters.length % 4 with
    | 0 => some (bytes letters)
    | 2 => if padding < 2 then none else some (bytes letters)
    | 3 => if padding < 1 then none else some (bytes letters)
    | _ => none

end Binary

/-! ## Nodes -/

/-- Nodes by their anchors; one that is still being read has none yet. -/
abbrev Anchors := List (String × Option Node)

namespace Node

mutual

/-- A node with aliases replaced by what they name. A name may be given once, and not be used inside of what it
names. -/
def expand? (anchors : Anchors) : Node → Option (Node × Anchors)
  | scalar tag text plain => some (.scalar tag text plain, anchors)
  | sequence tag items => do
    let (items, anchors) ← expandAll? anchors items
    return (.sequence tag items, anchors)
  | mapping tag entries => do
    let (entries, anchors) ← expandEntries? anchors entries
    return (.mapping tag entries, anchors)
  | anchored name node =>
    if (List.lookup name anchors).isSome then none
    else do
      let (node, anchors) ← expand? ((name, none) :: anchors) node
      return (node, (name, some node) :: anchors.filter (·.1 != name))
  | reference name => do
    let node ← (List.lookup name anchors).join
    return (node, anchors)

/-- Nodes with aliases replaced, one after another. -/
def expandAll? (anchors : Anchors) : List Node → Option (List Node × Anchors)
  | [] => some ([], anchors)
  | n :: ns => do
    let (n, anchors) ← expand? anchors n
    let (ns, anchors) ← expandAll? anchors ns
    return (n :: ns, anchors)

/-- Entries with aliases replaced, one after another. -/
def expandEntries? (anchors : Anchors) : List (Node × Node) → Option (List (Node × Node) × Anchors)
  | [] => some ([], anchors)
  | (k, v) :: rest => do
    let (k, anchors) ← expand? anchors k
    let (v, anchors) ← expand? anchors v
    let (rest, anchors) ← expandEntries? anchors rest
    return ((k, v) :: rest, anchors)

end

/-- The start of the names of the tags that have a meaning. -/
def tagPrefix : String := "tag:yaml.org,2002:"

/-- The names of kinds as tags. -/
def kindName : PlainKind → String
  | .truth => "bool"
  | .float => "float"
  | .whole => "int"
  | .merge => "merge"
  | .null => "null"
  | .stamp => "timestamp"
  | .default => "value"
  | .text => "str"

/-- The name of a tag that has a meaning; another tag's own text otherwise. -/
def tagName (tag : String) : String :=
  match Text.after? tagPrefix.toList tag.toList with
  | some name => String.ofList name
  | none => "?" ++ tag

/-- What a collection is read as: what its tag names, or else what it is written as. -/
def collectionName (written : String) : Option String → String
  | none => written
  | some tag => if tag == "!" then written else tagName tag

/-- What a node is read as. -/
def readAs : Node → String
  | scalar tag text plain =>
    match tag, plain with
    | none, false => "str"
    | some tag, false => tagName tag
    | _, true => kindName (Plain.kind text)
  | sequence tag _ => collectionName "seq" tag
  | mapping tag _ => collectionName "map" tag
  | _ => "?"

/-- Whether a key stands for entries to be merged in. -/
def isMerge (key : Node) : Bool := key.readAs == "merge"

/-- A key that is read as a text after all where it stands alone for a default. -/
def asKey (key : Node) : Node :=
  match key with
  | scalar _ text _ => if key.readAs == "value" then scalar none text false else key
  | _ => key

mutual

/-- The entries of a mapping, those merged in before its own; nothing where something else is merged in. -/
def entries? : Node → Option (List (Node × Node))
  | mapping _ entries => do
    let (merged, own) ← merged? entries
    return merged ++ own
  | _ => none

/-- The entries that are merged into a mapping, and its own. -/
def merged? : List (Node × Node) → Option (List (Node × Node) × List (Node × Node))
  | [] => some ([], [])
  | (k, v) :: rest =>
    if k.isMerge then do
      let more ← mergedIn? v
      let (merged, own) ← merged? rest
      return (more ++ merged, own)
    else do
      let (merged, own) ← merged? rest
      return (merged, (k.asKey, v) :: own)

/-- The entries that a node stands for where it is merged in; of several mappings the first counts most and
comes last. -/
def mergedIn? : Node → Option (List (Node × Node))
  | mapping _ entries => do
    let (merged, own) ← merged? entries
    return merged ++ own
  | sequence _ items => mergedAll? items
  | _ => none

/-- The entries of mappings, the last mapping's first. -/
def mergedAll? : List Node → Option (List (Node × Node))
  | [] => some []
  | n :: ns => do
    let first ← entries? n
    let rest ← mergedAll? ns
    return rest ++ first

end

end Node

/-- What a text is read as a kind of scalar. -/
def scalarMeaning (name text : String) : Except Unread Datum :=
  let spelled (x : Except Fault Datum) : Except Unread Datum := x.mapError .fault
  match name with
  | "str" => .ok (.text text)
  | "null" => .ok .null
  | "bool" =>
    match List.lookup (Text.lower text) Plain.truthWords with
    | some b => .ok (.bool b)
    | none => .error (.fault .missingKey)
  | "int" => spelled ((Plain.whole text).map .int)
  | "float" => spelled ((Plain.float text).map .float)
  | "timestamp" =>
    match Plain.stamp? text.toList with
    | none => .error (.fault .noMatch)
    | some t => spelled t.datum
  | "binary" =>
    match Binary.decode? text with
    | some bytes => .ok (.bytes bytes)
    | none => .error .malformed
  | _ => .error .malformed

/-- The names of what is read as a collection. -/
def collectionNames : List String := ["seq", "omap", "pairs", "map"]

namespace Node

/-- Whether a node is read as a collection, whatever it is written as. -/
def isCollection (node : Node) : Bool :=
  collectionNames.contains node.readAs

mutual

/-- The text of a node that is read as a scalar; a mapping has that of its default. -/
def scalarText? : Node → Option String
  | scalar _ text _ => some text
  | mapping _ entries => defaultText? entries
  | _ => none

/-- The text of the first entry that is marked as the default. -/
def defaultText? : List (Node × Node) → Option String
  | [] => none
  | (k, v) :: rest => if k.readAs == "value" then scalarText? v else defaultText? rest

end

/-- What a node that is no collection is read as. -/
def scalarValue (node : Node) : Except Unread Datum :=
  match node.scalarText?, node with
  | none, _ => .error .malformed
  | some text, .scalar _ _ _ => scalarMeaning node.readAs text
  | some text, _ =>
    -- a time is looked for in the node itself
    if node.readAs == "timestamp" then .error (.fault .wrongKind) else scalarMeaning node.readAs text

/-- What is done, one after the other, when a collection is filled. -/
inductive Step where
  /-- The node is begun: a scalar is read, and a collection is there, still empty. -/
  | begin (node : Node)
  /-- What was begun is made a key. -/
  | key (node : Node)
  /-- There is something else where there should be an entry. -/
  | broken

/-- The steps in which a collection is filled. -/
def filling (node : Node) : List Step :=
  match node, node.readAs with
  | .sequence _ items, "seq" => items.map .begin
  | .sequence _ items, "omap" | .sequence _ items, "pairs" =>
    items.flatMap fun
      | .mapping _ [(k, v)] => [.begin k, .begin v]
      | _ => [.broken]
  | .mapping tag entries, "map" =>
    match entries? (.mapping tag entries) with
    | some entries => entries.flatMap fun (k, v) => [.begin k, .key k, .begin v]
    | none => [.broken]
  | node, _ => if node.isCollection then [.broken] else []

namespace Step

/-- What is wrong with a step. A collection can be no key. -/
def trouble? : Step → Option Unread
  | begin node =>
    if node.isCollection then none
    else
      match node.scalarValue with
      | .ok _ => none
      | .error u => some u
  | key node => if node.isCollection then some .malformed else none
  | broken => some .malformed

/-- The node that is begun. -/
def begun? : Step → Option Node
  | begin node => some node
  | _ => none

end Step

/-- The steps in which nodes are filled, and then those inside of them, to a depth. -/
def stepsBelow : (depth : Nat) → List Node → List Step
  | 0, _ => []
  | depth + 1, nodes =>
    let steps := nodes.flatMap filling
    steps ++ stepsBelow depth (steps.filterMap Step.begun?)

/-- What a node without trouble is read as, to a depth. -/
def value : (depth : Nat) → Node → Datum
  | 0, _ => .null
  | depth + 1, node =>
    match node, node.readAs with
    | .sequence _ items, "seq" => .list (items.map (value depth))
    | .sequence _ items, "omap" | .sequence _ items, "pairs" =>
      .list (items.map fun
        | .mapping _ [(k, v)] => .list [value depth k, value depth v]
        | _ => .null)
    | .mapping tag entries, "map" =>
      .map (((entries? (.mapping tag entries)).getD []).foldl
        (fun found (k, v) => Datum.insert (value depth k) (value depth v) found) [])
    | node, _ => node.scalarValue.toOption.getD .null

mutual

/-- How deep collections stand in one another in a node. -/
def depth : Node → Nat
  | .scalar _ _ _ | .reference _ => 1
  | .anchored _ n => n.depth + 1
  | .sequence _ items => depthAll items + 1
  | .mapping _ entries => depthEntries entries + 1

/-- The greatest depth of some nodes. -/
def depthAll : List Node → Nat
  | [] => 0
  | n :: ns => max n.depth (depthAll ns)

/-- The greatest depth of the keys and values of some entries. -/
def depthEntries : List (Node × Node) → Nat
  | [] => 0
  | (k, v) :: rest => max (max k.depth v.depth) (depthEntries rest)

end

/-- All steps in which a node is read: it is begun, then filled, and then what is inside of it is filled. -/
def steps (node : Node) : List Step :=
  .begin node :: stepsBelow (node.depth + 1) [node]

end Node

/-- The datum that a text stands for; null where it holds no document. Of all that is wrong with a document the
first in the order of its steps counts. -/
def read (text : String) : Except Unread Datum := do
  match Node.ofTokens? (← tokens text) with
  | none => throw .malformed
  | some none => return .null
  | some (some node) =>
    let (node, _) ← orMalformed (node.expand? [])
    match node.steps.findSome? Node.Step.trouble? with
    | some u => throw u
    | none => return node.value (node.depth + 1)

end MetaSearch.Yaml
