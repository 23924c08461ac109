import Scaffold.Text.Utf8
import Scaffold.Yaml.Character
import Scaffold.Yaml.Token
import Scaffold.Yaml.Token.Block
import Scaffold.Yaml.Token.Quoted

/-!
# Names, tags and directives

Anchors and handles are made of letters, digits, hyphens and underscores. The rest of a tag is
written with the characters of a resource name, others as percent escapes of their octets.
-/

set_option autoImplicit false

namespace Scaffold.Yaml

private def isNameCharacter (character : Char) : Bool :=
  ('0' ≤ character && character ≤ '9') || ('A' ≤ character && character ≤ 'Z') ||
    ('a' ≤ character && character ≤ 'z') || character == '-' || character == '_'

private def isResourceCharacter (character : Char) : Bool :=
  isNameCharacter character || ";/?:@&=+$,.!~*'()[]".toList.contains character

private def isSpaceOrBreak (character : Char) : Bool :=
  character == ' ' || isBreakOrFinish character

/-- The name of an anchor or an alias. -/
def anchorName (cursor : Cursor) : Except Fault (List Char × Cursor) :=
  let name := cursor.take isNameCharacter
  let cursor := cursor.pass isNameCharacter
  if name.isEmpty then .error .malformed
  else if isGap cursor.here || "?:,]\x7d%@\x60".toList.contains cursor.here then
    .ok (name, cursor)
  else .error .malformed

/-- A handle from its first exclamation mark to its last. -/
def tagHandle (cursor : Cursor) : Except Fault (List Char × Cursor) :=
  if cursor.here ≠ '!' then .error .malformed
  else if cursor.ahead 1 = ' ' then .ok (['!'], cursor.advance)
  else
    let name := cursor.advance.take isNameCharacter
    let after := cursor.advance.pass isNameCharacter
    if after.here = '!' then .ok ('!' :: name ++ ['!'], after.advance) else .error .malformed

/-- The octets of the percent escapes ahead. -/
private def escapedOctets : Nat → Cursor → List UInt8 → Except Fault (List UInt8 × Cursor)
  | 0, cursor, octets => .ok (octets, cursor)
  | fuel + 1, cursor, octets =>
    if cursor.here ≠ '%' then .ok (octets, cursor)
    else
      match (cursor.rest.drop 1).take 2 with
      | [high, low] =>
        match hexNumber? [high, low] with
        | some octet => escapedOctets fuel (cursor.skip 3) (octets ++ [octet.toUInt8])
        | none => .error .malformed
      | _ => .error .malformed

private def resourceFrom : Nat → Cursor → List Char → Except Fault (List Char × Cursor)
  | 0, cursor, content => .ok (content, cursor)
  | fuel + 1, cursor, content =>
    let content := content ++ cursor.take isResourceCharacter
    let cursor := cursor.pass isResourceCharacter
    if cursor.here ≠ '%' then .ok (content, cursor)
    else do
      let (octets, cursor) ← escapedOctets cursor.fuel cursor []
      match Text.decode ⟨octets.toArray⟩ with
      | .ok text => resourceFrom fuel cursor (content ++ text.toList)
      | .error _ => .error .malformed

def resourceName (cursor : Cursor) : Except Fault (List Char × Cursor) := do
  let (content, cursor) ← resourceFrom cursor.fuel cursor []
  if content.isEmpty then .error .malformed else return (content, cursor)

/-- Whether a tag has a handle longer than one mark: a second mark comes before any gap. -/
private def hasLongHandle (cursor : Cursor) : Bool :=
  (cursor.advance.rest.dropWhile fun character => character != '!' && !isSpaceOrBreak character)
    |>.headD finish |> (· == '!')

private def writtenTag (cursor : Cursor) : Except Fault (TagName × Cursor) := do
  if cursor.ahead 1 = '<' then
    let (name, cursor) ← resourceName (cursor.skip 2)
    if cursor.here = '>' then return (.whole name, cursor.advance) else .error .malformed
  else if isGap (cursor.ahead 1) then return (.whole ['!'], cursor.advance)
  else
    let (handle, cursor) ←
      if hasLongHandle cursor then tagHandle cursor else .ok (['!'], cursor.advance)
    let (suffix, cursor) ← resourceName cursor
    return (.handled handle suffix, cursor)

def tagName (cursor : Cursor) : Except Fault (TagName × Cursor) := do
  let (name, cursor) ← writtenTag cursor
  if isSpaceOrBreak cursor.here then return (name, cursor) else .error .malformed

private def versionNumber (cursor : Cursor) : Except Fault (Nat × Cursor) :=
  match cursor.take isDigit with
  | [] => .error .malformed
  | digits =>
    if hasTooManyDigits 10 digits then
      .error (.scalar (.notInteger 10 (String.ofList digits)))
    else .ok (Nat.ofDigitChars 10 digits 0, cursor.pass isDigit)

private def version (cursor : Cursor) : Except Fault (Directive × Cursor) := do
  let (major, cursor) ← versionNumber cursor.passSpaces
  if cursor.here ≠ '.' then .error .malformed
  else
    let (_, cursor) ← versionNumber cursor.advance
    return (.version major, cursor)

private def handleReplacement (cursor : Cursor) : Except Fault (Directive × Cursor) := do
  let (handle, cursor) ← tagHandle cursor.passSpaces
  if cursor.here ≠ ' ' then .error .malformed
  else
    let (replacement, cursor) ← resourceName cursor.passSpaces
    return (.tagHandle handle replacement, cursor)

/-- Reads a directive from its percent sign to the end of its line. -/
def directive (cursor : Cursor) : Except Fault (Directive × Cursor) := do
  let cursor := cursor.advance
  let name := cursor.take isNameCharacter
  let cursor := cursor.pass isNameCharacter
  if name.isEmpty || !isSpaceOrBreak cursor.here then .error .malformed
  else
    let (directive, cursor) ←
      if name = "YAML".toList then version cursor
      else if name = "TAG".toList then handleReplacement cursor
      else .ok (.other, cursor.pass (!isBreakOrFinish ·))
    if directive ≠ .other && !isSpaceOrBreak cursor.here then .error .malformed
    else return (directive, ← endLine cursor)

end Scaffold.Yaml
