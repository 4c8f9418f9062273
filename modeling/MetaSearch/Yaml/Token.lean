import MetaSearch.Yaml.Cursor

/-!
# Tokens

A document is a row of tokens: marks of its structure, names and scalars. Where a collection that is laid out by
indentation begins and ends has tokens of its own.
-/

namespace MetaSearch.Yaml

/-- A tag as it is written: the handle that stands for a prefix, if any, and what follows it. -/
structure TagName where
  handle : Option String
  suffix : String
  deriving DecidableEq, Repr, Inhabited

/-- What is said to the reader of a document. -/
inductive Directive where
  | version (major : Nat)
  | tag (handle start : String)
  | other
  deriving DecidableEq, Repr, Inhabited

/-- A token. -/
inductive Token where
  | directive (d : Directive)
  | documentStart
  | documentEnd
  | streamEnd
  | sequenceStart
  | mappingStart
  | blockEnd
  | flowSequenceStart
  | flowSequenceEnd
  | flowMappingStart
  | flowMappingEnd
  | blockEntry
  | flowEntry
  | key
  | value
  | reference (name : String)
  | anchor (name : String)
  | tag (name : TagName)
  | scalar (text : String) (plain : Bool)
  deriving DecidableEq, Repr, Inhabited

end MetaSearch.Yaml
