/-!
# Tags

What kind of value a node stands for. A tag that names no known kind is kept apart from those that
do, and `defaultEntry` is the kind of the key `=`.
-/

set_option autoImplicit false

namespace Scaffold.Yaml

inductive Tag where
  | null
  | truth
  | integer
  | number
  | text
  | octets
  | moment
  | list
  | mapping
  | members
  | merge
  | defaultEntry
  | unknown
  deriving DecidableEq, Repr

/-- What the tags of the known kinds begin with. -/
def knownTags : List Char :=
  "tag:yaml.org,2002:".toList

private def knownKinds : List (String × Tag) :=
  [("null", .null), ("bool", .truth), ("int", .integer), ("float", .number), ("str", .text),
    ("binary", .octets), ("timestamp", .moment), ("seq", .list), ("map", .mapping),
    ("set", .members), ("merge", .merge), ("value", .defaultEntry)]

def Tag.ofName (name : List Char) : Tag :=
  match knownKinds.find? (fun kind => knownTags ++ kind.1.toList == name) with
  | some (_, tag) => tag
  | none => .unknown

end Scaffold.Yaml
