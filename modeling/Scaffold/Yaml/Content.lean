import Scaffold.Yaml.Node.Grammar
import Scaffold.Value.Basic

/-!
# The value of a document

A node denotes a value; of several faults the one that is least deep counts, and of those the first.
The scalars of a collection are as deep as the collection.
-/

set_option autoImplicit false

namespace Scaffold.Yaml

structure Flaw where
  depth : Nat
  fault : Fault
  deriving DecidableEq, Repr

/-- Both results, or the less deep flaw of the two. -/
def both {α β : Type} (first : Except Flaw α) (second : Except Flaw β) : Except Flaw (α × β) :=
  match first, second with
  | .ok first, .ok second => .ok (first, second)
  | .error first, .error second => .error (if second.depth < first.depth then second else first)
  | .error flaw, .ok _ => .error flaw
  | .ok _, .error flaw => .error flaw

private def putMember (member : Value) (members : List Value) : List Value :=
  if members.any (·.sameKey member) then members else members ++ [member]

def keyable (depth : Nat) (key : Node) : Except Flaw Unit :=
  if key.isKey then .ok () else .error ⟨depth, .malformed⟩

/-- What a collection denotes under a tag, once its items do. -/
def collection (depth : Nat) (tag usual : Tag) (value : Except Flaw Value) :
    Except Flaw Value :=
  if tag = usual then value
  else if tag = .list || tag = .mapping || tag = .members then .error ⟨depth + 1, .malformed⟩
  else .error ⟨depth, .malformed⟩

mutual

/-- The value of a node in a collection that is `depth` deep. -/
def valueOf (depth : Nat) : Node → Except Flaw Value
  | .scalar tag content =>
    match tag with
    | .list | .mapping | .members => .error ⟨depth + 1, .malformed⟩
    | tag => (scalarValue tag content).mapError fun fault => ⟨depth, fault⟩
  | .sequence tag items =>
    collection depth tag .list ((valuesOf (depth + 1) items).map Value.list)
  | .mapping .members entries =>
    (entriesOf (depth + 1) entries).map fun entries =>
      .members (entries.foldl (fun members entry => putMember entry.1 members) [])
  | .mapping tag entries =>
    collection depth tag .mapping <| (entriesOf (depth + 1) entries).map fun entries =>
      .mapping (entries.foldl (fun entries entry => putEntry entry.1 entry.2 entries) [])
  | .unmergeable => .error ⟨depth + 1, .malformed⟩

def valuesOf (depth : Nat) : List Node → Except Flaw (List Value)
  | [] => .ok []
  | item :: items =>
    (both (valueOf depth item) (valuesOf depth items)).map fun (value, values) => value :: values

def entriesOf (depth : Nat) : List (Node × Node) → Except Flaw (List (Value × Value))
  | [] => .ok []
  | (key, value) :: entries =>
    let checked := both (both (valueOf depth key) (keyable depth key)) (valueOf depth value)
    (both checked (entriesOf depth entries)).map fun (((key, _), value), entries) =>
      (key, value) :: entries

end

/-- Reads the value that a text denotes; a text without a document denotes null. -/
def read (text : String) : Except Fault Value := do
  match ← Node.ofText? text.toList with
  | none => return .null
  | some node => (valueOf 0 node).mapError (·.fault)

end Scaffold.Yaml
