import Scaffold.Yaml.Fault
import Scaffold.Yaml.Cursor

/-!
# Block scalars

Lines as they stand, or folded: a line end between two lines that begin with no blank reads as a
space. The first line sets the indentation unless a digit does; a sign says whether the line ends
after the last line are kept or left out.
-/

set_option autoImplicit false

namespace Scaffold.Yaml

/-- What becomes of the line ends after the last line. -/
inductive Chomping where
  | strip
  | clip
  | keep
  deriving DecidableEq, Repr

structure BlockHeader where
  chomping : Chomping
  increment : Option Nat
  deriving DecidableEq, Repr

private def chomping? (character : Char) : Option Chomping :=
  if character = '+' then some .keep else if character = '-' then some .strip else none

private def increment? (character : Char) : Option Nat :=
  if '0' ≤ character && character ≤ '9' then some (character.toNat - 48) else none

/-- Reads the indicators of a block scalar, in either order. -/
def blockHeader (cursor : Cursor) : Except Fault (BlockHeader × Cursor) := do
  let (header, cursor) :=
    match chomping? cursor.here, increment? cursor.here with
    | some chomping, _ =>
      match increment? (cursor.ahead 1) with
      | some increment => (BlockHeader.mk chomping (some increment), cursor.skip 2)
      | none => (⟨chomping, none⟩, cursor.advance)
    | none, some increment =>
      match chomping? (cursor.ahead 1) with
      | some chomping => (⟨chomping, some increment⟩, cursor.skip 2)
      | none => (⟨.clip, some increment⟩, cursor.advance)
    | none, none => (⟨.clip, none⟩, cursor)
  if header.increment = some 0 || !(cursor.here == ' ' || isBreakOrFinish cursor.here) then
    .error .malformed
  else return (header, cursor)

/-- Goes past the spaces and the comment that end a line. -/
def endLine (cursor : Cursor) : Except Fault Cursor :=
  let cursor := cursor.passSpaces
  let cursor := if cursor.here = '#' then cursor.pass (!isBreakOrFinish ·) else cursor
  if isBreakOrFinish cursor.here then .ok cursor.lineBreak.2 else .error .malformed

/-- The line ends ahead of the first line and the deepest indentation among them. -/
def leadingBreaks : Nat → Cursor → List Char → Nat → List Char × Nat × Cursor
  | 0, cursor, breaks, deepest => (breaks, deepest, cursor)
  | fuel + 1, cursor, breaks, deepest =>
    let cursor := cursor.passSpaces
    let deepest := max deepest cursor.column
    let (lineBreak, next) := cursor.lineBreak
    if lineBreak.isEmpty then (breaks, deepest, cursor)
    else leadingBreaks fuel next (breaks ++ lineBreak) deepest

/-- The line ends ahead, each after no more than the indentation. -/
def indentedBreaks (indentation : Nat) : Nat → Cursor → List Char → List Char × Cursor
  | 0, cursor, breaks => (breaks, cursor)
  | fuel + 1, cursor, breaks =>
    let cursor := cursor.passIndent indentation
    let (lineBreak, next) := cursor.lineBreak
    if lineBreak.isEmpty then (breaks, cursor)
    else indentedBreaks indentation fuel next (breaks ++ lineBreak)

private def isIndented (character : Char) : Bool :=
  character == ' ' || character == '\t'

/-- The text of the lines from `cursor` on, after the line ends `breaks`. -/
def blockLines (folded : Bool) (chomping : Chomping) (indentation : Nat) :
    Nat → Cursor → List Char → List Char × Cursor
  | 0, cursor, breaks => (breaks, cursor)
  | fuel + 1, cursor, breaks =>
    let line := cursor.take (!isBreakOrFinish ·)
    let (lineEnd, next) := (cursor.skip line.length).lineBreak
    let (others, next) := indentedBreaks indentation next.fuel next []
    if next.column = indentation && !next.atFinish then
      let folds := folded && lineEnd == ['\n'] && !isIndented cursor.here && !isIndented next.here
      let between := if folds then (if others.isEmpty then [' '] else []) else lineEnd
      let (rest, finish) := blockLines folded chomping indentation fuel next others
      (breaks ++ line ++ between ++ rest, finish)
    else
      let ending :=
        match chomping with
        | .strip => []
        | .clip => lineEnd
        | .keep => lineEnd ++ others
      (breaks ++ line ++ ending, next)

/-- Reads a block scalar from its indicator on, in a block indented to column `indent`. -/
def blockScalar (indent : Int) (cursor : Cursor) : Except Fault (List Char × Cursor) := do
  let folded := cursor.here == '>'
  let (header, cursor) ← blockHeader cursor.advance
  let cursor ← endLine cursor
  let least := (max (indent + 1) 1).toNat
  let (breaks, indentation, cursor) :=
    match header.increment with
    | none =>
      let (breaks, deepest, cursor) := leadingBreaks cursor.fuel cursor [] 0
      (breaks, max least deepest, cursor)
    | some increment =>
      let indentation := least + increment - 1
      let (breaks, cursor) := indentedBreaks indentation cursor.fuel cursor []
      (breaks, indentation, cursor)
  if cursor.column = indentation && !cursor.atFinish then
    return blockLines folded header.chomping indentation cursor.fuel cursor breaks
  else return (if header.chomping = .keep then breaks else [], cursor)

end Scaffold.Yaml
