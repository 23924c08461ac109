import Scaffold.Yaml.Character
import Scaffold.Yaml.Fault
import Scaffold.Yaml.Token.Plain

/-!
# Quoted scalars

Between single quotes, a quote is written twice. Between double quotes, a backslash starts an
escape: a letter for a control, two, four or eight hexadecimal digits of a code, or a line end that
is left out. Blanks around a line end are left out, and line ends fold as in plain scalars.
-/

set_option autoImplicit false

namespace Scaffold.Yaml

private def hexValue? (character : Char) : Option Nat :=
  let code := character.toNat
  if 48 ≤ code && code ≤ 57 then some (code - 48)
  else if 65 ≤ code && code ≤ 70 then some (code - 55)
  else if 97 ≤ code && code ≤ 102 then some (code - 87)
  else none

def hexNumber? (digits : List Char) : Option Nat :=
  digits.foldl (fun number digit => do return 16 * (← number) + (← hexValue? digit)) (some 0)

private def escapedCharacters : List (Char × Char) :=
  [('0', '\x00'), ('a', '\x07'), ('b', '\x08'), ('t', '\t'), ('\t', '\t'), ('n', '\n'),
    ('v', '\x0b'), ('f', '\x0c'), ('r', '\r'), ('e', '\x1b'), (' ', ' '), ('"', '"'),
    ('\\', '\\'), ('/', '/'), ('N', '\x85'), ('_', '\xa0'), ('L', '\u2028'), ('P', '\u2029')]

private def escapeWidths : List (Char × Nat) :=
  [('x', 2), ('u', 4), ('U', 8)]

/-- The character of an escaped code; a code of half a character reads as a replacement. -/
def codedCharacter (code : Nat) : Except Fault Char :=
  if 0x10FFFF < code then .error (.scalar (.noCharacter code))
  else if 0xD800 ≤ code && code ≤ 0xDFFF then .ok '\ufffd'
  else .ok (Char.ofNat code)

/-- A piece of a quoted scalar and the place after it. -/
abbrev Piece := List Char × Cursor

/-- The line ends from the start of a line on, with the blanks around them. -/
def quotedBreaks : Nat → Cursor → List Char → Except Fault Piece
  | 0, cursor, breaks => .ok (breaks, cursor)
  | fuel + 1, cursor, breaks =>
    if cursor.atAnyMark then .error .malformed
    else
      let cursor := cursor.pass isPadding
      let (lineBreak, next) := cursor.lineBreak
      if lineBreak.isEmpty then .ok (breaks, cursor)
      else quotedBreaks fuel next (breaks ++ lineBreak)

def quotedGap (cursor : Cursor) : Except Fault Piece := do
  let blanks := cursor.take isPadding
  let cursor := cursor.pass isPadding
  if cursor.atFinish then .error .malformed
  else
    let (first, next) := cursor.lineBreak
    if first.isEmpty then .ok (blanks, cursor)
    else
      let (others, cursor) ← quotedBreaks next.fuel next []
      return (foldBreaks first others, cursor)

/-- Reads the escape after a backslash. -/
def escape (cursor : Cursor) : Except Fault Piece :=
  match escapedCharacters.lookup cursor.here, escapeWidths.lookup cursor.here with
  | some character, _ => .ok ([character], cursor.advance)
  | none, some width => do
    let digits := (cursor.rest.drop 1).take width
    if digits.length < width then .error .malformed
    else
      match hexNumber? digits with
      | none => .error .malformed
      | some code => return ([← codedCharacter code], cursor.skip (width + 1))
  | none, none =>
    let (lineBreak, next) := cursor.lineBreak
    if lineBreak.isEmpty then .error .malformed else quotedBreaks next.fuel next []

private def isQuotedOrdinary (character : Char) : Bool :=
  !(character == '\'' || character == '"' || character == '\\' || isGap character)

/-- Reads characters and escapes up to a blank or the closing quote. -/
def quotedWord (quote : Char) : Nat → Cursor → List Char → Except Fault Piece
  | 0, cursor, content => .ok (content, cursor)
  | fuel + 1, cursor, content => do
    let content := content ++ cursor.take isQuotedOrdinary
    let cursor := cursor.pass isQuotedOrdinary
    if quote = '\'' && cursor.here = '\'' && cursor.ahead 1 = '\'' then
      quotedWord quote fuel (cursor.skip 2) (content ++ ['\''])
    else if cursor.here ≠ quote &&
        (cursor.here = '\'' || cursor.here = '"' || (quote = '\'' && cursor.here = '\\')) then
      quotedWord quote fuel cursor.advance (content ++ [cursor.here])
    else if quote = '"' && cursor.here = '\\' then
      let (piece, cursor) ← escape cursor.advance
      quotedWord quote fuel cursor (content ++ piece)
    else return (content, cursor)

def quotedFrom (quote : Char) : Nat → Cursor → List Char → Except Fault Piece
  | 0, _, _ => .error .malformed
  | fuel + 1, cursor, content => do
    let (content, cursor) ← quotedWord quote cursor.fuel cursor content
    if cursor.here = quote then return (content, cursor.advance)
    else
      let (gap, cursor) ← quotedGap cursor
      quotedFrom quote fuel cursor (content ++ gap)

/-- Reads the scalar that the quote here begins. -/
def quotedScalar (cursor : Cursor) : Except Fault Piece :=
  quotedFrom cursor.here cursor.fuel cursor.advance []

end Scaffold.Yaml
