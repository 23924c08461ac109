import Scaffold.Text.CaseTable
import Scaffold.Text.CasedTable

/-!
# Letter case

Upper and lower case of a text, with the mappings to several characters. A capital sigma becomes a
final sigma where a word ends: after a cased character and not before one, characters that case
looks through left aside.
-/

set_option autoImplicit false

namespace Scaffold.Text

def mapped (runs : List CaseRun) (expansions : List (Nat × List Nat)) (character : Char) :
    List Char :=
  match expansions.lookup character.toNat with
  | some codes => codes.map Char.ofNat
  | none =>
    match runs.find? (·.covers character.toNat) with
    | some run => [Char.ofNat (character.toNat + run.shift).toNat]
    | none => [character]

def upperOf (character : Char) : List Char :=
  if character.toNat < 128 then [character.toUpper]
  else mapped upperRuns upperExpansions character

/-- The form of a character at the start of a capitalised word. -/
def initialOf (character : Char) : List Char :=
  match initialForms.lookup character.toNat with
  | some codes => codes.map Char.ofNat
  | none => upperOf character

def lowerOf (character : Char) : List Char :=
  if character.toNat < 128 then [character.toLower]
  else mapped lowerRuns lowerExpansions character

def isCased (character : Char) : Bool :=
  casedRanges.has character

def isCaseIgnorable (character : Char) : Bool :=
  caseIgnorableRanges.has character

def meetsCased (text : List Char) : Bool :=
  match text.dropWhile isCaseIgnorable with
  | [] => false
  | character :: _ => isCased character

/-- Whether a sigma between the reversed text `before` and the text `after` ends a word. -/
def endsWord (before after : List Char) : Bool :=
  meetsCased before && !meetsCased after

/-- The lower case of a text that follows the reversed text `before`. -/
def lowerAfter : List Char → List Char → List Char
  | _, [] => []
  | before, character :: rest =>
    let lowered :=
      if character = 'Σ' then [if endsWord before rest then 'ς' else 'σ']
      else lowerOf character
    lowered ++ lowerAfter (character :: before) rest

def lower (text : List Char) : List Char :=
  lowerAfter [] text

def capitalize : List Char → List Char
  | [] => []
  | first :: rest => initialOf first ++ lowerAfter [first] rest

end Scaffold.Text
