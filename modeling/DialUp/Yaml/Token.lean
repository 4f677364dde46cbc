/-!
# Tokens

What a document is made of on its surface: marks of structure, which the indentation of block
collections gives too, and scalars with their text.
-/

namespace DialUp.Yaml

/-- The name of a tag: a handle, if it has one, and a suffix. -/
structure TagName where
  handle : Option String
  suffix : String
  deriving DecidableEq, Repr

/-- A directive. -/
inductive Directive
  | version (major : Nat)
  | tag (handle start : String)
  | unknown
  deriving DecidableEq, Repr

/-- A piece of a document's surface. -/
inductive Token
  | directive (d : Directive)
  | documentStart
  | documentEnd
  | streamEnd
  | blockSequenceStart
  | blockMappingStart
  | blockEnd
  | flowSequenceStart
  | flowSequenceEnd
  | flowMappingStart
  | flowMappingEnd
  | flowEntry
  | blockEntry
  | key
  | value
  | alias (name : String)
  | anchor (name : String)
  | tag (name : TagName)
  | scalar (text : String) (plain : Bool)
  deriving DecidableEq, Repr

end DialUp.Yaml
