import Scaffold.Yaml.Fault

/-!
# Tokens of a document

The marks, scalars and properties that a document is written with. Blocks that are shown by
indentation have tokens for their start and end. Where a text cannot be read on, its last token
holds the fault.
-/

set_option autoImplicit false

namespace Scaffold.Yaml

/-- A tag as written: a whole tag, or a handle and what follows it. -/
inductive TagName where
  | whole (tag : List Char)
  | handled (handle suffix : List Char)
  deriving DecidableEq, Repr

inductive Directive where
  | version (major : Nat)
  | tagHandle (handle replacement : List Char)
  | other
  deriving DecidableEq, Repr

inductive Token where
  | finish
  | unreadable (fault : Fault)
  | directive (directive : Directive)
  | documentStart
  | documentEnd
  | blockSequence
  | blockMapping
  | blockEnd
  | flowSequence
  | flowSequenceEnd
  | flowMapping
  | flowMappingEnd
  | blockItem
  | flowItem
  | key
  | value
  | alias (name : List Char)
  | anchor (name : List Char)
  | tag (name : TagName)
  | scalar (plain : Bool) (content : List Char)
  deriving DecidableEq, Repr

end Scaffold.Yaml
