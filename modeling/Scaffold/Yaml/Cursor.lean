/-!
# A place in a document

The text that is left, and how far it is from the start of the text and of its line. A line ends at
a return and feed, at each of them alone, at the next-line control, and at the line and paragraph
separators.
-/

set_option autoImplicit false

namespace Scaffold.Yaml

/-- Stands for the end of a text, which holds no such character. -/
def finish : Char := '\x00'

def isBreak (character : Char) : Bool :=
  character == '\n' || character == '\r' || character == '\x85' || character == '\u2028' ||
    character == '\u2029'

def isBreakOrFinish (character : Char) : Bool :=
  isBreak character || character == finish

def isGap (character : Char) : Bool :=
  character == ' ' || character == '\t' || isBreakOrFinish character

def byteOrderMark : Char := '\ufeff'

/-- Whether a document may hold a character. -/
def isAllowed (character : Char) : Bool :=
  let code := character.toNat
  code == 9 || code == 10 || code == 13 || (0x20 ≤ code && code ≤ 0x7E) || code == 0x85 ||
    (0xA0 ≤ code && code ≤ 0xD7FF) || (0xE000 ≤ code && code ≤ 0xFFFD) || 0x10000 ≤ code

structure Cursor where
  rest : List Char
  index : Nat
  line : Nat
  column : Nat
  deriving Repr

namespace Cursor

def start (text : List Char) : Cursor :=
  ⟨text, 0, 0, 0⟩

def ahead (cursor : Cursor) (count : Nat) : Char :=
  (cursor.rest.drop count).headD finish

def here (cursor : Cursor) : Char :=
  cursor.rest.headD finish

def atFinish (cursor : Cursor) : Bool :=
  cursor.rest.isEmpty

def advance (cursor : Cursor) : Cursor :=
  match cursor.rest with
  | [] => cursor
  | character :: rest =>
    if isBreak character && !(character == '\r' && rest.headD finish == '\n') then
      ⟨rest, cursor.index + 1, cursor.line + 1, 0⟩
    else if character = byteOrderMark then ⟨rest, cursor.index + 1, cursor.line, cursor.column⟩
    else ⟨rest, cursor.index + 1, cursor.line, cursor.column + 1⟩

def skip : Nat → Cursor → Cursor
  | 0, cursor => cursor
  | count + 1, cursor => skip count cursor.advance

/-- The characters ahead as long as they are accepted. -/
def take (accepts : Char → Bool) (cursor : Cursor) : List Char :=
  cursor.rest.takeWhile accepts

def pass (accepts : Char → Bool) (cursor : Cursor) : Cursor :=
  cursor.skip (cursor.take accepts).length

def passSpaces (cursor : Cursor) : Cursor :=
  cursor.pass (· == ' ')

/-- Goes past spaces up to a column. -/
def passIndent (limit : Nat) (cursor : Cursor) : Cursor :=
  cursor.skip (min (cursor.take (· == ' ')).length (limit - cursor.column))

/-- What a line end reads as, empty where no line ends, and the place after it. -/
def lineBreak (cursor : Cursor) : List Char × Cursor :=
  match cursor.rest with
  | [] => ([], cursor)
  | character :: rest =>
    if character = '\r' && rest.headD finish = '\n' then (['\n'], cursor.skip 2)
    else if character = '\u2028' || character = '\u2029' then ([character], cursor.advance)
    else if isBreak character then (['\n'], cursor.advance)
    else ([], cursor)

/-- Whether the mark of the start or the end of a document is ahead. -/
def atMark (cursor : Cursor) (mark : Char) : Bool :=
  cursor.here == mark && cursor.ahead 1 == mark && cursor.ahead 2 == mark && isGap (cursor.ahead 3)

def atAnyMark (cursor : Cursor) : Bool :=
  cursor.atMark '-' || cursor.atMark '.'

/-- More than the number of steps that go forward from here. -/
def fuel (cursor : Cursor) : Nat :=
  cursor.rest.length + 1

end Cursor

end Scaffold.Yaml
