/-!
# Phrases of messages
-/

set_option autoImplicit false

namespace Scaffold.Text

def byteCount (count : Int) : String :=
  toString count ++ if count = 1 then " byte" else " bytes"

def commaSeparated (names : List String) : String :=
  ", ".intercalate names

/-- Pads a number on the left with spaces to at least `width` characters. -/
def padNumber (width number : Nat) : String :=
  let digits := toString number
  String.ofList (List.replicate (width - digits.length) ' ') ++ digits

end Scaffold.Text
