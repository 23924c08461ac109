import Scaffold.Text.Blank
import Scaffold.Text.CellWidth

/-!
# Lines on a terminal

Controls that move the cursor are left out, and tabs go to the next multiple of eight cells. A line
is kept whole, less the blanks at its end that do not fit, or broken between words, or within a
word that fits no line.
-/

set_option autoImplicit false

namespace Scaffold.Console

/-- How many cells a line has. -/
def lineWidth : Nat := 1000

def tabWidth : Nat := 8

private def isCursorControl (character : Char) : Bool :=
  [7, 8, 11, 12, 13].contains character.toNat

def withoutControls (text : List Char) : List Char :=
  text.filter (!isCursorControl ·)

/-- Expands the tabs of a line from a cell on. -/
def expandTabs : Nat → List Char → List Char
  | _, [] => []
  | cell, character :: rest =>
    if character = '\t' then
      let count := tabWidth - cell % tabWidth
      List.replicate count ' ' ++ expandTabs (cell + count) rest
    else character :: expandTabs (cell + Text.cellWidth character) rest

/-- Takes the blanks at the end of a line that are beyond its width. -/
def cropEnd (width : Nat) (line : List Char) : List Char :=
  let blanks := line.length - (Text.trimRight line).length
  line.take (line.length - min blanks (line.length - width))

private def linesOf (text : List Char) : List (List Char) :=
  ((withoutControls text).splitOn '\n').map (expandTabs 0)

/-- The lines of a text, each kept whole. -/
def wholeLines (text : List Char) : List (List Char) :=
  (linesOf text).map (cropEnd lineWidth)

/-- A word with the blanks after it, and the rest of a text that begins with the word. -/
private def takeWord (text : List Char) : List Char × List Char :=
  let word := text.takeWhile (!Text.isBlank ·)
  let rest := text.dropWhile (!Text.isBlank ·)
  (word ++ Text.indentation rest, Text.trimLeft rest)

private def wordsFrom : Nat → List Char → List (List Char)
  | 0, _ => []
  | fuel + 1, text =>
    if text.isEmpty then []
    else
      let (word, rest) := takeWord text
      word :: wordsFrom fuel rest

/-- The words of a line with the blanks after them, the first also with those before it. -/
def wordsOf (line : List Char) : List (List Char) :=
  match wordsFrom line.length (Text.trimLeft line) with
  | [] => []
  | word :: words => (Text.indentation line ++ word) :: words

/-- Cuts a word into pieces of at most `width` cells. -/
private def chop (width : Nat) : List Char → Nat → List Char → List (List Char)
  | piece, _, [] => [piece.reverse]
  | piece, cells, character :: rest =>
    let wide := Text.cellWidth character
    if width < cells + wide then piece.reverse :: chop width [character] wide rest
    else chop width (character :: piece) (cells + wide) rest

/-- Sets words on lines after the line in progress, which has `cells` cells. -/
private def setWords (width : Nat) : List Char → Nat → List (List Char) → List (List Char)
  | line, _, [] => [line]
  | line, cells, word :: words =>
    let bare := Text.cellCount (Text.trimRight word)
    if bare + cells ≤ width then
      setWords width (line ++ word) (cells + Text.cellCount word) words
    else if width < bare then
      let pieces := chop width [] 0 word
      let last := pieces.getLastD []
      let whole := if line.isEmpty then pieces.dropLast else line :: pieces.dropLast
      whole ++ setWords width last (Text.cellCount last) words
    else if line.isEmpty || cells = 0 then setWords width (line ++ word) cells words
    else line :: setWords width word (Text.cellCount word) words

private def wrapLine (width : Nat) (line : List Char) : List (List Char) :=
  match wordsOf line with
  | [] => [line]
  | words => setWords width [] 0 words

/-- The lines of a text, broken to a width. -/
def wrappedLines (width : Nat) (text : List Char) : List (List Char) :=
  ((linesOf text).flatMap (wrapLine width)).map (cropEnd width)

/-- Lines with the feed after each. -/
def joinLines (lines : List (List Char)) : List Char :=
  lines.flatMap (· ++ ['\n'])

end Scaffold.Console
