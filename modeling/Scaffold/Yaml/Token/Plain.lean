import Scaffold.Yaml.Cursor

/-!
# Plain scalars

Words without quotes. A plain scalar ends at a colon before a gap, before a comment, at the
brackets and commas of a flow collection, and at a line that is not indented deeper than what holds
it. Between its words, a line end reads as a space and further line ends as themselves.
-/

set_option autoImplicit false

namespace Scaffold.Yaml

private def isFlowMark (character : Char) : Bool :=
  character == ',' || character == '[' || character == ']' || character == '\x7b' ||
    character == '\x7d'

/-- Whether a plain word ends before a character, by the character that follows it. -/
def endsPlainWord (inFlow : Bool) (character next : Char) : Bool :=
  isGap character || (character == ':' && (isGap next || (inFlow && isFlowMark next))) ||
    (inFlow && (isFlowMark character || character == '?'))

def plainWord (inFlow : Bool) : List Char → List Char
  | [] => []
  | character :: rest =>
    if endsPlainWord inFlow character (rest.headD finish) then []
    else character :: plainWord inFlow rest

/-- What stands between two words of a plain scalar: how it reads, and whether a line ends there. -/
structure PlainGap where
  content : List Char
  cursor : Cursor
  crossesLine : Bool

/-- The line ends after a first one, or none if a document mark comes. -/
def plainBreaks : Nat → Cursor → List Char → Option (List Char) × Cursor
  | 0, cursor, breaks => (some breaks, cursor)
  | fuel + 1, cursor, breaks =>
    if cursor.atAnyMark then (none, cursor)
    else
      let cursor := cursor.passSpaces
      let (lineBreak, next) := cursor.lineBreak
      if lineBreak.isEmpty then (some breaks, cursor)
      else plainBreaks fuel next (breaks ++ lineBreak)

/-- How the line ends between two words read together. -/
def foldBreaks (first others : List Char) : List Char :=
  if first ≠ ['\n'] then first ++ others else if others.isEmpty then [' '] else others

def plainGap (cursor : Cursor) : PlainGap :=
  let spaces := cursor.take (· == ' ')
  let cursor := cursor.passSpaces
  let (first, next) := cursor.lineBreak
  if first.isEmpty then ⟨spaces, cursor, false⟩
  else
    match plainBreaks next.fuel next [] with
    | (none, cursor) => ⟨[], cursor, true⟩
    | (some others, cursor) => ⟨foldBreaks first others, cursor, true⟩

/-- A plain scalar read so far; `crossedLine` tells that a line ended after its last word. -/
structure PlainScalar where
  content : List Char
  cursor : Cursor
  crossedLine : Bool

/-- Reads on a plain scalar after a gap, in lines from column `least` on. -/
def plainFrom (inFlow : Bool) (least : Int) : Nat → PlainScalar → List Char → PlainScalar
  | 0, scalar, _ => scalar
  | fuel + 1, scalar, gap =>
    let word := plainWord inFlow scalar.cursor.rest
    if scalar.cursor.here = '#' || word.isEmpty then scalar
    else
      let content := scalar.content ++ gap ++ word
      let next := plainGap (scalar.cursor.skip word.length)
      let scalar := ⟨content, next.cursor, next.crossesLine⟩
      if next.content.isEmpty || next.cursor.here = '#' ||
          (!inFlow && (next.cursor.column : Int) < least) then scalar
      else plainFrom inFlow least fuel scalar next.content

def plainScalar (inFlow : Bool) (least : Int) (cursor : Cursor) : PlainScalar :=
  plainFrom inFlow least cursor.fuel ⟨[], cursor, false⟩ []

/-- Whether a plain scalar can begin with a character, by the character that follows it. -/
def startsPlain (inFlow : Bool) (character next : Char) : Bool :=
  (!isGap character && !"-?:,[]\x7b\x7d#&*!|>'\"%@\x60".toList.contains character) ||
    (!isGap next && (character == '-' || (!inFlow && (character == '?' || character == ':'))))

end Scaffold.Yaml
