/-!
# Ranges of code points

A property of characters is kept as the inclusive ranges of the code points that have it.
-/

set_option autoImplicit false

namespace Scaffold.Text

/-- Inclusive ranges of code points. -/
abbrev CodeRanges := List (Nat × Nat)

def CodeRanges.has (ranges : CodeRanges) (character : Char) : Bool :=
  ranges.any fun range => range.1 ≤ character.toNat && character.toNat ≤ range.2

end Scaffold.Text
