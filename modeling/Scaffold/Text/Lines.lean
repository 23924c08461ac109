/-!
# Lines

A text falls into lines at every line end: the two-character return and feed, each of them alone,
the other vertical controls, and the line and paragraph separators. Files are read with every
return, alone or before a feed, turned into a feed.
-/

set_option autoImplicit false

namespace Scaffold.Text

def isLineEnd (character : Char) : Bool :=
  let code := character.toNat
  (10 ≤ code && code ≤ 13) || (28 ≤ code && code ≤ 30) || code == 0x85 || code == 0x2028 ||
    code == 0x2029

/-- A line and the characters that end it, none for a last line without an end. -/
structure Line where
  body : List Char
  ending : List Char
  deriving DecidableEq, Repr

namespace Line

def toList (line : Line) : List Char :=
  line.body ++ line.ending

end Line

/-- The lines of a text whose first line begins with the reversed text `body`. -/
def linesAfter : List Char → List Char → List Line
  | body, [] => if body.isEmpty then [] else [⟨body.reverse, []⟩]
  | body, '\r' :: '\n' :: rest => ⟨body.reverse, ['\r', '\n']⟩ :: linesAfter [] rest
  | body, character :: rest =>
    if isLineEnd character then ⟨body.reverse, [character]⟩ :: linesAfter [] rest
    else linesAfter (character :: body) rest

def lines (text : List Char) : List Line :=
  linesAfter [] text

/-- Every return and feed, and every return alone, becomes a feed. -/
def feedLines : List Char → List Char
  | [] => []
  | '\r' :: '\n' :: rest => '\n' :: feedLines rest
  | character :: rest => (if character = '\r' then '\n' else character) :: feedLines rest

end Scaffold.Text
