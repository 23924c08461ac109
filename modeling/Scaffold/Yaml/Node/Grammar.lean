import Scaffold.Yaml.Node
import Scaffold.Yaml.Scalar
import Scaffold.Yaml.Token.Lexer

/-!
# From tokens to a node

The grammar of documents. An anchor names the node after it, and an alias stands for the node of an
anchor that is complete. A text holds at most one document.
-/

set_option autoImplicit false

namespace Scaffold.Yaml

/-- The tokens that are left, the anchors with their nodes as far as they are complete, and what
the handles of tags stand for. -/
structure Reading where
  tokens : List Token
  anchors : List (List Char × Option Node)
  handles : List (List Char × List Char)

abbrev Reader := StateT Reading (Except Fault)

/-- Where a node stands: in a flow collection, in a block, or in a block mapping, where the items
of a sequence need no indentation. -/
inductive Place where
  | flow
  | block
  | entry
  deriving DecidableEq, Repr

namespace Reader

def next : Reader Token := do
  return (← get).tokens.headD .finish

def advance : Reader Unit :=
  modify fun reading => { reading with tokens := reading.tokens.tail }

/-- Refuses the next token. -/
def refuse {α : Type} : Reader α := do
  match ← next with
  | .unreadable fault => throw fault
  | _ => throw .malformed

def nextIs (expected : List Token) : Reader Bool := do
  return expected.contains (← next)

def expect (token : Token) : Reader Unit := do
  if ← nextIs [token] then advance else refuse

private def defaultHandles : List (List Char × List Char) :=
  [(['!'], ['!']), (['!', '!'], knownTags)]

def tagOf : TagName → Reader (List Char)
  | .whole tag => return tag
  | .handled handle suffix => do
    match (← get).handles.lookup handle with
    | some replacement => return replacement ++ suffix
    | none => throw .malformed

/-- The anchor and the tag of a node, in either order. -/
def properties : Reader (Option (List Char) × Option (List Char)) := do
  match ← next with
  | .anchor name =>
    advance
    match ← next with
    | .tag tag => advance; return (some name, some (← tagOf tag))
    | _ => return (some name, none)
  | .tag tag =>
    advance
    match ← next with
    | .anchor name => advance; return (some name, some (← tagOf tag))
    | _ => return (none, some (← tagOf tag))
  | _ => return (none, none)

def openAnchor : Option (List Char) → Reader Unit
  | none => return ()
  | some name => do
    if ((← get).anchors.lookup name).isSome then throw .malformed
    modify fun reading => { reading with anchors := (name, none) :: reading.anchors }

def closeAnchor (anchor : Option (List Char)) (node : Node) : Reader Unit :=
  match anchor with
  | none => return ()
  | some name =>
    modify fun reading => { reading with anchors := (name, some node) :: reading.anchors }

def aliased (name : List Char) : Reader Node := do
  match (← get).anchors.lookup name with
  | some (some node) => return node
  | _ => throw .malformed

/-- The tag of a collection: its own, or the usual one if it has none or a bare mark. -/
def collectionTag (usual : Tag) : Option (List Char) → Tag
  | none => usual
  | some tag => if tag = ['!'] then usual else Tag.ofName tag

def scalarTag (plain : Bool) (content : List Char) : Option (List Char) → Tag
  | none => if plain then Tag.ofPlain content else .text
  | some tag => if tag = ['!'] then Tag.ofPlain content else Tag.ofName tag

mutual

def node : Nat → Place → Reader Node
  | 0, _ => throw .malformed
  | fuel + 1, place => do
    match ← next with
    | .alias name => advance; aliased name
    | _ =>
      let (anchor, tag) ← properties
      openAnchor anchor
      let node ← content fuel place (anchor.isSome || tag.isSome) tag
      closeAnchor anchor node
      return node

/-- What follows the properties of a node; with properties it may be nothing. -/
def content : Nat → Place → Bool → Option (List Char) → Reader Node
  | 0, _, _, _ => throw .malformed
  | fuel + 1, place, hasProperties, tag => do
    match ← next with
    | .scalar plain content => advance; return .scalar (scalarTag plain content tag) content
    | .flowSequence => advance; return .sequence (collectionTag .list tag) (← flowItems fuel true)
    | .flowMapping =>
      advance
      return Node.ofEntries (collectionTag .mapping tag) (← flowEntries fuel true)
    | .blockItem =>
      if place = .entry then
        return .sequence (collectionTag .list tag) (← indentlessItems fuel)
      else absent hasProperties tag
    | .blockSequence =>
      if place = .flow then absent hasProperties tag
      else
        advance
        return .sequence (collectionTag .list tag) (← blockItems fuel)
    | .blockMapping =>
      if place = .flow then absent hasProperties tag
      else
        advance
        return Node.ofEntries (collectionTag .mapping tag) (← blockEntries fuel)
    | _ => absent hasProperties tag

def absent (hasProperties : Bool) (tag : Option (List Char)) : Reader Node :=
  if hasProperties then return .scalar (scalarTag true [] tag) [] else refuse

/-- A node, or an empty one before one of the tokens that end its place. -/
def nodeUnless : Nat → Place → List Token → Reader Node
  | 0, _, _ => throw .malformed
  | fuel + 1, place, ends => do
    if ← nextIs ends then return .empty else node fuel place

def blockItems : Nat → Reader (List Node)
  | 0 => throw .malformed
  | fuel + 1 => do
    match ← next with
    | .blockItem =>
      advance
      let item ← nodeUnless fuel .block [.blockItem, .blockEnd]
      return item :: (← blockItems fuel)
    | .blockEnd => advance; return []
    | _ => refuse

def indentlessItems : Nat → Reader (List Node)
  | 0 => throw .malformed
  | fuel + 1 => do
    match ← next with
    | .blockItem =>
      advance
      let item ← nodeUnless fuel .block [.blockItem, .key, .value, .blockEnd]
      return item :: (← indentlessItems fuel)
    | _ => return []

def blockEntries : Nat → Reader (List (Node × Node))
  | 0 => throw .malformed
  | fuel + 1 => do
    match ← next with
    | .key =>
      advance
      let key ← nodeUnless fuel .entry [.key, .value, .blockEnd]
      let value ← entryValue fuel .entry [.key, .value, .blockEnd]
      return (key, value) :: (← blockEntries fuel)
    | .blockEnd => advance; return []
    | _ => refuse

/-- The value of an entry, empty if no colon follows the key. -/
def entryValue : Nat → Place → List Token → Reader Node
  | 0, _, _ => throw .malformed
  | fuel + 1, place, ends => do
    if ← nextIs [.value] then
      advance
      nodeUnless fuel place ends
    else return .empty

def flowItems : Nat → Bool → Reader (List Node)
  | 0, _ => throw .malformed
  | fuel + 1, first => do
    if ← nextIs [.flowSequenceEnd] then
      advance
      return []
    else
      unless first do expect .flowItem
      match ← next with
      | .key =>
        advance
        let key ← nodeUnless fuel .flow [.value, .flowItem, .flowSequenceEnd]
        let value ← entryValue fuel .flow [.flowItem, .flowSequenceEnd]
        return Node.ofEntries .mapping [(key, value)] :: (← flowItems fuel false)
      | .flowSequenceEnd => advance; return []
      | _ =>
        let item ← node fuel .flow
        return item :: (← flowItems fuel false)

def flowEntries : Nat → Bool → Reader (List (Node × Node))
  | 0, _ => throw .malformed
  | fuel + 1, first => do
    if ← nextIs [.flowMappingEnd] then
      advance
      return []
    else
      unless first do expect .flowItem
      match ← next with
      | .key =>
        advance
        let key ← nodeUnless fuel .flow [.value, .flowItem, .flowMappingEnd]
        let value ← entryValue fuel .flow [.flowItem, .flowMappingEnd]
        return (key, value) :: (← flowEntries fuel false)
      | .flowMappingEnd => advance; return []
      | _ =>
        let key ← node fuel .flow
        return (key, .empty) :: (← flowEntries fuel false)

end

/-- Reads the directives at the head of a document. -/
def directives : Nat → Bool → Reader Unit
  | 0, _ => refuse
  | fuel + 1, versioned => do
    match ← next with
    | .directive (.version major) =>
      if versioned || major ≠ 1 then throw .malformed
      advance
      directives fuel true
    | .directive (.tagHandle handle replacement) =>
      if ((← get).handles.lookup handle).isSome then throw .malformed
      modify fun reading => { reading with handles := (handle, replacement) :: reading.handles }
      advance
      directives fuel versioned
    | .directive .other =>
      advance
      directives fuel versioned
    | _ =>
      modify fun reading => { reading with handles := reading.handles ++ defaultHandles }

def skipDocumentEnds : Nat → Reader Unit
  | 0 => refuse
  | fuel + 1 => do
    if ← nextIs [.documentEnd] then
      advance
      skipDocumentEnds fuel

private def isDirective : Token → Bool
  | .directive _ => true
  | _ => false

/-- The one document of a text, none if it has none. -/
def document (fuel : Nat) : Reader (Option Node) := do
  let first ← next
  if first = .finish then return none
  else
    let root ←
      if first = .documentStart || isDirective first then do
        directives fuel false
        expect .documentStart
        if isDirective (← next) then pure .empty
        else nodeUnless fuel .block [.documentStart, .documentEnd, .finish]
      else do
        directives fuel false
        node fuel .block
    skipDocumentEnds fuel
    expect .finish
    return some root

end Reader

/-- The root node of a text, none if the text holds no document. -/
def Node.ofText? (text : List Char) : Except Fault (Option Node) :=
  let tokens := Token.ofText text
  (Reader.document (4 * tokens.length + 4)).run' ⟨tokens, [], []⟩

end Scaffold.Yaml
