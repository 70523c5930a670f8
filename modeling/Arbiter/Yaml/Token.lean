import Arbiter.Document.Basic
/-!
# YAML tokens

What a text is cut into before it is read as a tree: the marks of collections, and scalars with what
they say.
-/

namespace Arbiter.Yaml

/-- A token of a YAML text.  Starts and ends of block collections are found from the indentation. -/
inductive Token where
  /-- A version directive. -/
  | version (major minor : Nat)
  /-- A tag directive. -/
  | tagAlias (handle lead : String)
  /-- The mark that starts a document. -/
  | documentStart
  /-- The mark that ends a document. -/
  | documentEnd
  /-- A block list starts. -/
  | blockListStart
  /-- A block record starts. -/
  | blockRecordStart
  /-- A block list or record ends. -/
  | blockEnd
  /-- An opening bracket. -/
  | flowListStart
  /-- A closing bracket. -/
  | flowListEnd
  /-- An opening brace. -/
  | flowRecordStart
  /-- A closing brace. -/
  | flowRecordEnd
  /-- The dash before an item of a block list. -/
  | blockEntry
  /-- A comma in a flow collection. -/
  | flowEntry
  /-- A key comes next. -/
  | key
  /-- A value comes next. -/
  | value
  /-- A reference to an anchor. -/
  | reference (name : String)
  /-- An anchor. -/
  | anchor (name : String)
  /-- A tag in two parts. -/
  | tag (handle suffix : String)
  /-- A scalar. -/
  | scalar (text : String) (style : Style)

end Arbiter.Yaml
