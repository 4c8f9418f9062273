import MetaSearch.Shape.Scalar
import MetaSearch.Site.Basic
import MetaSearch.Text.Utf8
import MetaSearch.Yaml.Meaning

/-!
# Reading definitions

A definition is written as a document. Much of it may be written short: a text in place of a record with one
field, one link in place of a list, a table of categories in place of mappings. `Definition.ofDatum` reads the
document by its shape first; `Draft.defects` says what a definition of the right shape still lacks.
-/

namespace MetaSearch

/-- Why a document makes no definition. -/
inductive Rejection where
  /-- The document does not make sense, for these reasons. -/
  | invalid (reasons : List String)
  /-- The document cannot be had. -/
  | unreadable (message : String)
  | fault (f : Fault)
  deriving DecidableEq, Repr, Inhabited

namespace Form

/-- A datum as a text, where no number in it has too many digits. -/
def written (d : Datum) : Shaped Datum :=
  if d.isWritable then .good (.text d.printed)
  else .complain ("Value error, Exceeds the limit (" ++ toString Numeral.maxDigits ++ " digits) for integer string " ++
    "conversion; use sys.set_int_max_str_digits() to increase the limit")

/-- A reading of a datum that has to be put into form first. -/
def formed {α : Type} (form : Datum → Shaped Datum) (shape : Shape α) : Shape α := fun d =>
  (form d).andThen shape

/-- A scalar that stands for a text, as that text. -/
def scalarText : Datum → Shaped Datum
  | .bool b => .good (.text (if b then "true" else "false"))
  | .int i => written (.int i)
  | .float x => written (.float x)
  | other => .good other

/-- A scalar that stands for a text, as that text; null is the empty one. -/
def scalarTextOrNone : Datum → Shaped Datum
  | .null => .good (.text "")
  | other => scalarText other

/-- A text in place of a record, as the record with that text in one field. -/
def expanded (field : String) : Datum → Datum
  | .text s => .object [(field, .text s)]
  | other => other

/-- A word as it is compared with those of a choice: in small letters and without blanks around it. -/
def word : Datum → Datum
  | .text s => .text (Text.lower (Text.strip s))
  | other => other

/-- A call of a filter. -/
def filter : Shape FilterCall := fun d =>
  Shape.record "FilterModel" (fun entries =>
    (fun name args => ⟨name, args⟩) <$> Shape.required entries "name" Shape.text <*>
      Shape.field entries "args" (fun d => .good (arguments d)) []) (expanded "name" d)
where
  /-- The arguments of a filter; a single one may stand without a list. -/
  arguments : Datum → List Datum
    | .null => []
    | .list ds => ds
    | d => [d]

/-- The filters of a chain, in an entry of a record. -/
def filters (entries : List (Datum × Datum)) (name : String) : Shaped (List FilterCall) :=
  Shape.field entries name (Shape.list filter) []

/-- A text, or null, in an entry of a record. -/
def optionalText (entries : List (Datum × Datum)) (name : String) (form : Datum → Shaped Datum) :
    Shaped (Option String) :=
  Shape.field entries name (formed form (Shape.orNull Shape.text)) none

/-- A table of anything, in an entry of a record. -/
def table (entries : List (Datum × Datum)) (name : String) : Shaped (List (String × Datum)) :=
  Shape.field entries name (Shape.table Shape.text Shape.anything) []

/-- The rule of a field, but for its name. -/
def field : Shape FieldRule := fun d =>
  Shape.record "FieldModel" (fun entries =>
    (fun selector text cases attributeName remove default optional filters =>
      { name := "", selector, text, cases, attributeName, remove, default, optional, filters }) <$>
      optionalText entries "selector" .good <*>
      optionalText entries "text" scalarText <*>
      Shape.field entries "case" caseTable [] <*>
      optionalText entries "attribute" .good <*>
      optionalText entries "remove" .good <*>
      optionalText entries "default" scalarText <*>
      Shape.field entries "optional" Shape.truth false <*>
      filters entries "filters") (expanded "selector" d)
where
  /-- The templates of a field by what the row matches. -/
  caseTable : Shape (List (String × String)) := fun d =>
    (Shape.orNull (Shape.table Shape.text Shape.anything) d).map fun table =>
      (table.getD []).map fun (key, value) => (key, value.printed)

/-- The rule of a field under its key, which may hold modifiers behind bars. -/
def keyedField (key : String) (rule : FieldRule) : FieldRule :=
  let parts := (Text.split "|" key).map Text.strip
  let modifiers := parts.drop 1
  { rule with
    name := parts.headD ""
    optional := rule.optional || modifiers.contains "optional"
    append := modifiers.contains "append" }

/-- The rule of rows. -/
def rows : Shape RowRule := fun d =>
  Shape.record "RowsModel" (fun entries =>
    (fun selector after filters => ⟨selector, after, filters⟩) <$>
      Shape.field entries "selector" Shape.text "" <*>
      Shape.field entries "after" Shape.whole 0 <*>
      filters entries "filters") (expanded "selector" d)

/-- The shape of an answer, as a path declares it. -/
def response : Shape AnswerShape :=
  Shape.record "ResponseModel" fun entries =>
    Shape.field entries "type" (fun d => Shape.choice AnswerShape.names (word d)) .html

/-- A path. -/
def path : Shape SearchPath := fun d =>
  Shape.record "PathModel" (fun entries =>
    (fun path method shape categories inputs => ⟨path, method, shape, categories, inputs⟩) <$>
      Shape.required entries "path" Shape.text <*>
      Shape.field entries "method" (fun d => Shape.choice Method.names (word d)) .get <*>
      Shape.field entries "response" response .html <*>
      Shape.field entries "categories" (formed categories (Shape.list Shape.text)) [] <*>
      table entries "inputs") (expanded "path" d)
where
  /-- Categories as texts. -/
  categories : Datum → Shaped Datum
    | .list ds => (Shaped.inOrder scalarText ds).map .list
    | other => .good other

/-- How a site is searched. A single path may stand outside the list of paths where that is empty. -/
def search : Shape SearchRule :=
  Shape.record "SearchModel" fun entries =>
    (fun paths single inputs headers keywordFilters bodyFilters rows fields =>
      { paths := if paths.isEmpty then singlePath single else paths
        rows, inputs, headers, keywordFilters, bodyFilters
        fields := fields.map fun (key, rule) => keyedField key rule }) <$>
      Shape.field entries "paths" (Shape.list path) [] <*>
      optionalText entries "path" .good <*>
      table entries "inputs" <*>
      table entries "headers" <*>
      filters entries "keywordsfilters" <*>
      filters entries "preprocessingfilters" <*>
      Shape.field entries "rows" rows ⟨"", 0, []⟩ <*>
      Shape.field entries "fields" (Shape.table Shape.text field) []
where
  /-- The path that stands outside the list. -/
  singlePath : Option String → List SearchPath
    | some path => if path.isEmpty then [] else [{ path }]
    | none => []

/-- The entries of a map with their keys as texts; of keys with one text the last counts. -/
def textKeyed (value : Datum → Shaped Datum) (entries : List (Datum × Datum)) : Shaped Datum :=
  let entry := fun (k, v) => (written k).andThen fun k => (value v).map fun v => (k, v)
  (Shaped.inOrder entry entries).map fun pairs =>
    .map (pairs.foldl (fun found (k, v) => Datum.insert k v found) [])

/-- The items that a datum can be gone through for; nothing and what is empty have none. -/
def itemsOf : Datum → Except Fault (List Datum)
  | .null => .ok []
  | .bool b => if b then .error .wrongKind else .ok []
  | .int i => if i = 0 then .ok [] else .error .wrongKind
  | .float x => if x.isZero then .ok [] else .error .wrongKind
  | .text s => .ok (s.toList.map fun c => .text (String.singleton c))
  | .list ds => .ok ds
  | .map entries => .ok (entries.map (·.1))
  | .bytes b => .ok (b.map fun x => .int x.toNat)
  | .date _ | .stamp _ => .error .wrongKind

/-- The kinds of settings. -/
def settingKinds : List String := ["text", "password", "checkbox", "select", "info"]

/-- A setting. -/
def setting : Shape Setting :=
  Shape.record "SettingModel" fun entries =>
    (fun name kind label default options => ⟨name, kind, label, default, options⟩) <$>
      Shape.required entries "name" Shape.text <*>
      Shape.field entries "type" (Shape.choice (settingKinds.map fun k => (k, k))) "text" <*>
      Shape.field entries "label" Shape.text "" <*>
      Shape.field entries "default" Shape.anything .null <*>
      Shape.field entries "options" (formed options (Shape.table Shape.text Shape.text)) []
where
  /-- Options with all keys and values as texts. -/
  options : Datum → Shaped Datum
    | .map entries => textKeyed written entries
    | other => .good other

/-- A category mapping. -/
def mapping : Shape CategoryMapping :=
  Shape.record "CategoryMappingModel" fun entries =>
    (fun id target description => ⟨id, target, description⟩) <$>
      Shape.required entries "id" (formed scalarTextOrNone Shape.text) <*>
      Shape.required entries "cat" Shape.text <*>
      Shape.field entries "desc" (formed scalarTextOrNone Shape.text) ""

/-- The mappings and search modes of a site. -/
structure Capabilities where
  mappings : List CategoryMapping := []
  modes : List (String × List String) := []
  deriving Repr, Inhabited

/-- The mappings and search modes of a site. A table of categories stands for mappings after those given. -/
def capabilities : Shape Capabilities :=
  formed merged (Shape.record "CapsModel" fun entries =>
    (fun mappings modes => ⟨mappings, modes⟩) <$>
      Shape.field entries "categorymappings" (Shape.list mapping) [] <*>
      Shape.field entries "modes" (formed modes (Shape.table Shape.text (Shape.list Shape.text))) [])
where
  /-- Capabilities with the table of categories among the mappings. -/
  merged : Datum → Shaped Datum
    | .map entries =>
      match Datum.lookup? (.text "categories") entries with
      | some (.map table) =>
        let given := itemsOf ((Datum.lookup? (.text "categorymappings") entries).getD .null)
        (Shaped.ofExcept given).andThen fun given => (Shaped.inOrder mappingOf table).map fun more =>
          .map (Datum.insert (.text "categorymappings") (.list (given ++ more)) entries)
      | _ => .good (.map entries)
    | other => .good other
  /-- The mapping that an entry of a table of categories stands for. -/
  mappingOf (entry : Datum × Datum) : Shaped Datum :=
    (written entry.1).andThen fun id => (written entry.2).map fun target => .object [("id", id), ("cat", target)]
  /-- Search modes with all keys and parameters as texts. -/
  modes : Datum → Shaped Datum
    | .map entries => textKeyed parameters entries
    | other => .good other
  /-- The parameters of a search mode as texts. -/
  parameters (d : Datum) : Shaped Datum :=
    (Shaped.ofExcept (itemsOf d)).andThen fun items => (Shaped.inOrder written items).map .list

/-- Links. A single one may stand without a list, and nothing for none. -/
def links : Shape (List String) := fun d =>
  (Shape.list Shape.text (listed d)).map fun links =>
    (links.map Text.strip).filter fun link => !link.isEmpty
where
  /-- Links as a list. -/
  listed (d : Datum) : Datum :=
    match d with
    | .text s => .list [.text s]
    | d => if d.isTruthy then d else .list []

end Form

/-- A definition whose privacy is still a word. -/
structure Draft where
  definition : Definition
  privacyName : String
  deriving Repr, Inhabited

namespace Draft

/-- The word for the protocol of a site. -/
def protocols : List (String × String) := [("torrent", "torrent"), ("usenet", "usenet")]

/-- A draft, read from a document. -/
def shape : Shape Draft :=
  Shape.record "DefinitionModel" fun entries =>
    (fun id name description language privacyName encoding protocol priority links legacyLinks settings
        (caps : Form.Capabilities) search =>
      { privacyName
        definition :=
          { id := Text.strip id, name := Text.strip name, links, search, description, language, encoding,
            protocol, priority, legacyLinks, settings, mappings := caps.mappings, modes := caps.modes } }) <$>
      Shape.field entries "id" (Form.formed Form.scalarTextOrNone Shape.text) "" <*>
      Shape.field entries "name" (Form.formed Form.scalarTextOrNone Shape.text) "" <*>
      Shape.field entries "description" Shape.text "" <*>
      Shape.field entries "language" Shape.text "en-US" <*>
      Shape.field entries "type" (fun d => Shape.text (Form.word d)) "public" <*>
      Shape.field entries "encoding" Shape.text "UTF-8" <*>
      Shape.field entries "protocol" (Shape.choice protocols) "torrent" <*>
      Shape.field entries "priority" Shape.whole 25 <*>
      Shape.field entries "links" Form.links [] <*>
      Shape.field entries "legacylinks" Form.links [] <*>
      Shape.field entries "settings" (Shape.list Form.setting) [] <*>
      Shape.field entries "caps" Form.capabilities {} <*>
      Shape.field entries "search" Form.search ⟨[], ⟨"", 0, []⟩, [], [], [], [], []⟩

/-- A reason where a condition holds. -/
def reason (holds : Bool) (text : String) : List String :=
  if holds then [text] else []

/-- What is wrong with the search of a definition of the right shape. -/
def searchDefects (search : SearchRule) : List String :=
  reason search.paths.isEmpty "search block must declare at least one path" ++
    search.paths.zipIdx.flatMap (fun (p, i) =>
      reason p.path.isEmpty ("search path #" ++ toString i ++ " is empty")) ++
    reason (Text.strip search.rows.selector).isEmpty "search rows selector is empty" ++
    reason (search.rows.after < 0) "rows.after must be >= 0" ++
    reason search.fields.isEmpty "search block must declare at least one field"

/-- What is wrong with a definition of the right shape. -/
def defects (draft : Draft) : List String :=
  let d := draft.definition
  reason d.id.isEmpty "missing required field: id" ++
    reason d.name.isEmpty "missing required field: name" ++
    reason (Privacy.ofName? draft.privacyName).isNone
      ("unknown privacy type: " ++ Text.quoted draft.privacyName) ++
    reason d.links.isEmpty "definition must have at least one link" ++
    searchDefects d.search

/-- The definition of a draft without defects. -/
def definition? (draft : Draft) : Except Rejection Definition :=
  match draft.defects, Privacy.ofName? draft.privacyName with
  | [], some privacy => .ok { draft.definition with privacy }
  | reasons, _ => .error (.invalid reasons)

end Draft

/-- The templates of all fields in a document that hang on what the row matches. -/
def Form.caseValues (d : Datum) : List Datum :=
  let fields := ((d.get? "search").bind (·.get? "fields")).bind Datum.entries?
  (fields.getD []).flatMap fun (_, field) =>
    (((field.get? "case").bind Datum.entries?).getD []).map (·.2)

/-- The definition that a document holds. -/
def Definition.ofDatum (d : Datum) : Except Rejection Definition :=
  match Draft.shape d with
  | .good draft => if (Form.caseValues d).all Datum.isWritable then draft.definition? else .error (.fault .notANumber)
  | .bad complaints => .error (.invalid (complaints.map (Complaint.text · "<root>")))
  | .broken f => .error (.fault f)

/-! ## Definition files

A definition lies in a file of its own. The file must hold text, the text a document, and the document a record;
what else is asked of it is asked by the shape of definitions.
-/

/-- The text of a file; every line ends with a line feed. -/
def fileText? (bytes : List UInt8) : Option String :=
  (Utf8.decode? bytes).map fun s => String.ofList (Text.withLineFeeds s)

namespace Definition

/-- The definition that a document in a text holds. -/
def ofText (text : String) : Except Rejection Definition :=
  match Yaml.read text with
  | .error .malformed => .error (.invalid ["invalid YAML"])
  | .error (.fault f) => .error (.fault f)
  | .ok .null => .error (.invalid ["YAML file is empty"])
  | .ok (.map entries) => ofDatum (.map entries)
  | .ok _ => .error (.invalid ["YAML root must be a mapping/object"])

/-- The definition in a file. -/
def ofFile (bytes : List UInt8) : Except Rejection Definition :=
  match fileText? bytes with
  | none => .error (.unreadable "undecodable file")
  | some text => ofText text

end Definition

end MetaSearch
