import Scaffold.Yaml.Tag

/-!
# Nodes

A document as scalars, sequences and mappings with their tags. A mapping holds the entries that it
merges before its own, and the key `=` is a text in it. A mapping that merges what is neither a
mapping nor a sequence of mappings has no entries to hold.
-/

set_option autoImplicit false

namespace Scaffold.Yaml

inductive Node where
  | scalar (tag : Tag) (content : List Char)
  | sequence (tag : Tag) (items : List Node)
  | mapping (tag : Tag) (entries : List (Node × Node))
  | unmergeable
  deriving Repr, Inhabited

namespace Node

def empty : Node :=
  .scalar .null []

/-- Whether a node can be a key: no collection can. -/
def isKey : Node → Bool
  | .scalar _ _ => true
  | _ => false

def isMerge : Node → Bool
  | .scalar tag _ => tag == .merge
  | _ => false

private def entries? : Node → Option (List (Node × Node))
  | .mapping _ entries => some entries
  | _ => none

/-- The entries that the value of a merge key brings, of several mappings the last one's first. -/
def merged? : Node → Option (List (Node × Node))
  | .sequence _ items => (items.reverse.mapM entries?).map List.flatten
  | node => entries? node

private def asKey : Node → Node
  | .scalar .defaultEntry content => .scalar .text content
  | node => node

/-- The mapping of entries as written. -/
def ofEntries (tag : Tag) (entries : List (Node × Node)) : Node :=
  let merges := entries.filter (·.1.isMerge)
  let own := (entries.filter (!·.1.isMerge)).map fun entry => (entry.1.asKey, entry.2)
  match merges.mapM (·.2.merged?) with
  | some brought => .mapping tag (brought.flatten ++ own)
  | none => .unmergeable

end Node

end Scaffold.Yaml
