import Scaffold.Text.Blank
import Scaffold.Text.LetterCase

/-!
# Ways to join words

Words are separated by hyphens, underscores and blanks. Pascal case joins them with the first
character of each in upper case. Snake case breaks before a capital that starts a word of lower
case letters and between a lower case letter or digit and a capital, turns every run of hyphens and
blanks into one underscore, and lowers the whole. Kebab case is snake case with hyphens.
-/

set_option autoImplicit false

namespace Scaffold.Text

def isSeparator (character : Char) : Bool :=
  character == '-' || character == '_' || isBlank character

/-- Pascal case of a text, which continues a word unless `starts`. -/
def pascalFrom : Bool → List Char → List Char
  | _, [] => []
  | starts, character :: rest =>
    if isSeparator character then pascalFrom true rest
    else if starts then upperOf character ++ pascalFrom false rest
    else character :: pascalFrom false rest

def pascal (text : List Char) : List Char :=
  pascalFrom true text

def isCapital (character : Char) : Bool :=
  'A' ≤ character && character ≤ 'Z'

def isSmall (character : Char) : Bool :=
  'a' ≤ character && character ≤ 'z'

def isSmallOrDigit (character : Char) : Bool :=
  isSmall character || ('0' ≤ character && character ≤ '9')

/-- Where a scan for words of a capital and small letters stands: at no such word, before the
capital of one, or after it. -/
inductive WordPlace where
  | outside
  | capital
  | small
  deriving DecidableEq, Repr

/-- Whether a capital and a small letter come first. -/
def startsWord : List Char → Bool
  | capital :: small :: _ => isCapital capital && isSmall small
  | _ => false

/-- Breaks before each word of a capital and small letters that does not stand at the start, after
a feed, or directly after a word just broken off. -/
def breakWords : WordPlace → List Char → List Char
  | _, [] => []
  | place, character :: rest =>
    if place = .capital || (place = .small && isSmall character) then
      character :: breakWords .small rest
    else if character ≠ '\n' && startsWord rest then
      character :: '_' :: breakWords .capital rest
    else character :: breakWords .outside rest

/-- Breaks between a small letter or digit and a capital. -/
def breakHumps : List Char → List Char
  | [] => []
  | [character] => [character]
  | character :: next :: rest =>
    if isSmallOrDigit character && isCapital next then
      character :: '_' :: breakHumps (next :: rest)
    else character :: breakHumps (next :: rest)

def isGap (character : Char) : Bool :=
  character == '-' || isBlank character

/-- Turns every run of hyphens and blanks into one underscore; `inGap` inside a run. -/
def underscoreGaps : Bool → List Char → List Char
  | _, [] => []
  | inGap, character :: rest =>
    if isGap character then
      if inGap then underscoreGaps true rest else '_' :: underscoreGaps true rest
    else character :: underscoreGaps false rest

def snake (text : List Char) : List Char :=
  lower (underscoreGaps false (breakHumps (breakWords .outside text)))

def hyphenate (character : Char) : Char :=
  if character = '_' then '-' else character

def kebab (text : List Char) : List Char :=
  (snake text).map hyphenate

def pascalCase (text : String) : String :=
  String.ofList (pascal text.toList)

def snakeCase (text : String) : String :=
  String.ofList (snake text.toList)

def kebabCase (text : String) : String :=
  String.ofList (kebab text.toList)

def lowerCase (text : String) : String :=
  String.ofList (lower text.toList)

end Scaffold.Text
