import Scaffold.Artifact.Basic

/-!
# Previews

What is shown of an artifact instead of making it: how many lines and octets it has, and its first
lines with their numbers.
-/

set_option autoImplicit false

namespace Scaffold

structure Preview where
  path : String
  kind : String
  lineCount : Nat
  size : Nat
  lines : List (Nat × String)
  remaining : Nat
  deriving DecidableEq, Repr

namespace Preview

/-- How many lines a preview shows. -/
def lineLimit : Nat := 20

def numbered : Nat → List (List Char) → List (Nat × String)
  | _, [] => []
  | number, line :: lines => (number, String.ofList line) :: numbered (number + 1) lines

def ofArtifact (artifact : Artifact) : Preview :=
  let content := artifact.content.toList
  let lines := content.splitOn '\n'
  { path := artifact.pathText
    kind := artifact.kind
    lineCount := content.count '\n' + 1
    size := artifact.content.utf8ByteSize
    lines := numbered 1 (lines.take lineLimit)
    remaining := lines.length - lineLimit }

end Preview

end Scaffold
