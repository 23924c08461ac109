/-!
# Paths

A path is relative, or starts at the root, which two slashes at the start tell apart from one and
from more. Empty components and single dots say nothing; double dots are kept.
-/

set_option autoImplicit false

namespace Scaffold

inductive Anchor where
  | relative
  | root
  | doubleRoot
  deriving DecidableEq, Repr

structure Path where
  anchor : Anchor
  parts : List String
  deriving DecidableEq, Repr

namespace Path

def anchorOf : List Char → Anchor
  | '/' :: '/' :: '/' :: _ => .root
  | '/' :: '/' :: _ => .doubleRoot
  | '/' :: _ => .root
  | _ => .relative

/-- The components that a text names. -/
def partsOf (text : List Char) : List String :=
  ((text.splitOn '/').map String.ofList).filter fun part => part ≠ "" && part ≠ "."

def ofString (text : String) : Path :=
  ⟨anchorOf text.toList, partsOf text.toList⟩

def anchorText : Anchor → String
  | .relative => ""
  | .root => "/"
  | .doubleRoot => "//"

def toString (path : Path) : String :=
  if path.anchor = .relative && path.parts.isEmpty then "."
  else anchorText path.anchor ++ "/".intercalate path.parts

/-- Goes from a path along another; a path that starts at the root replaces it. -/
def join (path other : Path) : Path :=
  if other.anchor = .relative then ⟨path.anchor, path.parts ++ other.parts⟩ else other

def child (path : Path) (name : String) : Path :=
  path.join (ofString name)

/-- Goes along several names in turn. -/
def descend (path : Path) (names : List String) : Path :=
  names.foldl child path

def parent (path : Path) : Path :=
  ⟨path.anchor, path.parts.dropLast⟩

/-- The last component, empty if there is none. -/
def name (path : Path) : String :=
  path.parts.getLastD ""

def isAbsolute (path : Path) : Bool :=
  path.anchor != .relative

/-- Whether no file can have this path, since it holds the character that ends names. -/
def hasNull (path : Path) : Bool :=
  path.parts.any (·.toList.contains '\x00')

end Path

end Scaffold
