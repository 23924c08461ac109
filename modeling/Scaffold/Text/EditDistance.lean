/-!
# Edit distance

The least number of insertions, deletions and substitutions of single characters that turn one text
into another, computed one row of prefixes at a time.
-/

set_option autoImplicit false

namespace Scaffold.Text

/-- Continues the row of one more character of the first text, given the row above from the
diagonal on and the entry on the left. -/
def extendRow (character : Char) : List Char → List Nat → Nat → List Nat
  | other :: others, diagonal :: above :: row, left =>
    let substituted := diagonal + if character = other then 0 else 1
    let entry := min (min (above + 1) (left + 1)) substituted
    entry :: extendRow character others (above :: row) entry
  | _, _, _ => []

def nextRow (target : List Char) (row : List Nat) (character : Char) : List Nat :=
  let first := row.headD 0 + 1
  first :: extendRow character target row first

def editDistance (source target : List Char) : Nat :=
  (source.foldl (nextRow target) (List.range (target.length + 1))).getLastD 0

end Scaffold.Text
