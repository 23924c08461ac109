/-!
# Blank characters and trimming

Blank characters are the spaces, line ends and separators that a word cannot contain; a text is
trimmed by dropping them from its ends.
-/

set_option autoImplicit false

namespace Scaffold.Text

def isBlank (character : Char) : Bool :=
  let code := character.toNat
  (9 ≤ code && code ≤ 13) || (28 ≤ code && code ≤ 32) || code == 0x85 || code == 0xA0 ||
    code == 0x1680 || (0x2000 ≤ code && code ≤ 0x200A) || code == 0x2028 || code == 0x2029 ||
    code == 0x202F || code == 0x205F || code == 0x3000

def trimLeft (text : List Char) : List Char :=
  text.dropWhile isBlank

def trimRight (text : List Char) : List Char :=
  (text.reverse.dropWhile isBlank).reverse

def trim (text : List Char) : List Char :=
  trimRight (trimLeft text)

def isAllBlank (text : List Char) : Bool :=
  text.all isBlank

/-- The blank characters that a text begins with. -/
def indentation (text : List Char) : List Char :=
  text.takeWhile isBlank

theorem indentation_append_trimLeft (text : List Char) :
    indentation text ++ trimLeft text = text :=
  List.takeWhile_append_dropWhile

end Scaffold.Text
