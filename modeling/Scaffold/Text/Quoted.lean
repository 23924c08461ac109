import Scaffold.Text.Visible

/-!
# Quoted texts

A text is quoted between apostrophes, or between double quotes if it holds an apostrophe and no
double quote. The quote in use, backslashes and characters that are not shown as themselves are
escaped.
-/

set_option autoImplicit false

namespace Scaffold.Text

def hexDigit (value : Nat) : Char :=
  if value < 10 then Char.ofNat (48 + value) else Char.ofNat (87 + value)

/-- The last `width` hexadecimal digits of `value`. -/
def hexDigits : Nat → Nat → List Char
  | 0, _ => []
  | width + 1, value => hexDigits width (value / 16) ++ [hexDigit (value % 16)]

def quoteFor (text : List Char) : Char :=
  if text.contains '\'' && !text.contains '"' then '"' else '\''

def escapeCode (code : Nat) : List Char :=
  if code < 0x100 then '\\' :: 'x' :: hexDigits 2 code
  else if code < 0x10000 then '\\' :: 'u' :: hexDigits 4 code
  else '\\' :: 'U' :: hexDigits 8 code

def escapeWithin (quote character : Char) : List Char :=
  if character = quote || character = '\\' then ['\\', character]
  else if character = '\n' then ['\\', 'n']
  else if character = '\r' then ['\\', 'r']
  else if character = '\t' then ['\\', 't']
  else if isVisible character then [character]
  else escapeCode character.toNat

def quoted (text : List Char) : List Char :=
  let quote := quoteFor text
  quote :: text.flatMap (escapeWithin quote) ++ [quote]

/-- Octets are quoted like texts, each shown as the ASCII character it codes or by its number. -/
def quotedOctets (octets : List UInt8) : List Char :=
  let quote := quoteFor (octets.map fun octet => Char.ofNat octet.toNat)
  let escapeOctet (octet : UInt8) : List Char :=
    if octet.toNat < 127 then escapeWithin quote (Char.ofNat octet.toNat)
    else escapeCode octet.toNat
  'b' :: quote :: octets.flatMap escapeOctet ++ [quote]

/-- Quotes a string. -/
def quote (text : String) : String :=
  String.ofList (quoted text.toList)

end Scaffold.Text
