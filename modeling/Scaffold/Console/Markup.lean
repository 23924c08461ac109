/-!
# Style marks in a text

A text can hold style marks between square brackets, which are not shown. A backslash before a mark
makes it part of the text. Plain text is escaped so that no part of it is taken for a mark.
-/

set_option autoImplicit false

namespace Scaffold.Console

private def startsMark (character : Char) : Bool :=
  ('a' ≤ character && character ≤ 'z') || character == '#' || character == '/' || character == '@'

/-- Whether a text up to its first closing bracket holds no opening one. -/
private def closes : List Char → Bool
  | [] => false
  | character :: rest =>
    if character = ']' then true else if character = '[' then false else closes rest

/-- Whether a mark follows an opening bracket. -/
def isMark : List Char → Bool
  | [] => false
  | first :: rest => startsMark first && closes rest

private def backslashes (count : Nat) : List Char :=
  List.replicate count '\\'

/-- Escapes the marks of a text that follows `pending` backslashes. -/
private def escapeAfter : Nat → List Char → List Char
  | pending, [] => backslashes pending
  | pending, '\\' :: rest => escapeAfter (pending + 1) rest
  | pending, '[' :: rest =>
    let count := if isMark rest then 2 * pending + 1 else pending
    backslashes count ++ '[' :: escapeAfter 0 rest
  | pending, character :: rest => backslashes pending ++ character :: escapeAfter 0 rest

/-- A text whose marks are shown, safe before a mark unless it ends in two backslashes. -/
def escape (text : List Char) : List Char :=
  let escaped := escapeAfter 0 text
  match escaped.reverse with
  | '\\' :: '\\' :: _ => escaped
  | '\\' :: _ => escaped ++ ['\\']
  | _ => escaped

/-- Drops the marks of a text that follows `pending` backslashes, or of one in a mark. -/
private def renderAfter : Bool → Nat → List Char → List Char
  | _, pending, [] => backslashes pending
  | true, _, character :: rest => renderAfter (character != ']') 0 rest
  | false, pending, '\\' :: rest => renderAfter false (pending + 1) rest
  | false, pending, '[' :: rest =>
    if isMark rest then
      if pending % 2 = 1 then backslashes (pending / 2) ++ '[' :: renderAfter false 0 rest
      else backslashes (pending / 2) ++ renderAfter true 0 rest
    else backslashes (pending - 1) ++ '[' :: renderAfter false 0 rest
  | false, pending, character :: rest =>
    backslashes pending ++ character :: renderAfter false 0 rest

/-- What is shown of a text with marks. -/
def render (text : List Char) : List Char :=
  renderAfter false 0 text

/-- A text between a style mark and its end. -/
def styled (style : String) (text : List Char) : List Char :=
  ("[" ++ style ++ "]").toList ++ text ++ ("[/" ++ style ++ "]").toList

end Scaffold.Console
