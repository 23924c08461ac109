import Scaffold.Yaml.Token.Property

/-!
# From a text to tokens

A scan keeps the columns of the open blocks and, for every open flow collection and the blocks
around them, where a key may have begun. A key shows only by the colon after it: its token, and that
of a block it starts, are put in where it began. A key ends within its line and 1024 characters.
-/

set_option autoImplicit false

namespace Scaffold.Yaml

/-- Where a key may have begun: how many tokens are before it, and whether it must be one. -/
structure KeyStart where
  place : Nat
  required : Bool
  cursor : Cursor

/-- A scan in progress, its tokens latest first and its blocks and key starts innermost first. -/
structure Lexer where
  cursor : Cursor
  tokens : List Token
  blocks : List Nat
  keys : List (Option KeyStart)
  allowsKey : Bool

namespace Lexer

def start (text : List Char) : Lexer :=
  let cursor := Cursor.start text
  let cursor := if cursor.here = byteOrderMark then cursor.advance else cursor
  ⟨cursor, [], [], [none], true⟩

def indent (lexer : Lexer) : Int :=
  match lexer.blocks with
  | [] => -1
  | column :: _ => column

def inFlow (lexer : Lexer) : Bool :=
  1 < lexer.keys.length

def push (token : Token) (lexer : Lexer) : Lexer :=
  { lexer with tokens := token :: lexer.tokens }

/-- Puts a token in after the first `place` tokens. -/
def insert (place : Nat) (token : Token) (lexer : Lexer) : Lexer :=
  let later := lexer.tokens.length - place
  { lexer with tokens := lexer.tokens.take later ++ token :: lexer.tokens.drop later }

def keyStart? (lexer : Lexer) : Option KeyStart :=
  lexer.keys.headD none

def setKeyStart (key : Option KeyStart) (lexer : Lexer) : Lexer :=
  { lexer with keys := key :: lexer.keys.tail }

/-- Gives up that a key has begun, unless it must be one. -/
def dropKey (lexer : Lexer) : Except Fault Lexer :=
  match lexer.keyStart? with
  | some key => if key.required then .error .malformed else .ok (lexer.setKeyStart none)
  | none => .ok lexer

/-- Notes that a key may begin here. -/
def noteKey (lexer : Lexer) : Except Fault Lexer := do
  if lexer.allowsKey then
    let required := !lexer.inFlow && lexer.indent == lexer.cursor.column
    let lexer ← lexer.dropKey
    return lexer.setKeyStart (some ⟨lexer.tokens.length, required, lexer.cursor⟩)
  else return lexer

private def keyLimit : Nat := 1024

private def isStale (cursor : Cursor) (key : KeyStart) : Bool :=
  key.cursor.line != cursor.line || keyLimit < cursor.index - key.cursor.index

/-- Gives up the keys that are too far back. -/
def dropStaleKeys (lexer : Lexer) : Except Fault Lexer := do
  let fresh (key : Option KeyStart) : Except Fault (Option KeyStart) :=
    match key with
    | none => .ok none
    | some key =>
      if !isStale lexer.cursor key then .ok (some key)
      else if key.required then .error .malformed
      else .ok none
  return { lexer with keys := ← lexer.keys.mapM fresh }

private def unwindBlocks (column : Int) : List Nat → List Token → List Nat × List Token
  | [], tokens => ([], tokens)
  | block :: blocks, tokens =>
    if column < block then unwindBlocks column blocks (.blockEnd :: tokens)
    else (block :: blocks, tokens)

/-- Ends the blocks deeper than a column. -/
def unwind (column : Int) (lexer : Lexer) : Lexer :=
  if lexer.inFlow then lexer
  else
    let (blocks, tokens) := unwindBlocks column lexer.blocks lexer.tokens
    { lexer with blocks, tokens }

/-- Starts a block at a column, if none is open there. -/
def startBlock (column place : Nat) (token : Token) (lexer : Lexer) : Lexer :=
  if lexer.indent < column then
    { lexer.insert place token with blocks := column :: lexer.blocks }
  else lexer

/-- Goes to the next token: past spaces, comments and line ends. Outside flow collections a key may
begin on a new line. -/
private def nextFrom (inFlow : Bool) : Nat → Cursor → Bool → Cursor × Bool
  | 0, cursor, allowsKey => (cursor, allowsKey)
  | fuel + 1, cursor, allowsKey =>
    let cursor := cursor.passSpaces
    let cursor := if cursor.here = '#' then cursor.pass (!isBreakOrFinish ·) else cursor
    let (lineBreak, next) := cursor.lineBreak
    if lineBreak.isEmpty then (cursor, allowsKey)
    else nextFrom inFlow fuel next (allowsKey || !inFlow)

def toNext (lexer : Lexer) : Lexer :=
  let (cursor, allowsKey) := nextFrom lexer.inFlow lexer.cursor.fuel lexer.cursor lexer.allowsKey
  { lexer with cursor, allowsKey }

/-- Takes a token that is `width` characters wide. -/
private def mark (token : Token) (width : Nat) (lexer : Lexer) : Lexer :=
  { lexer.push token with cursor := lexer.cursor.skip width }

private def scanFinish (lexer : Lexer) : Except Fault Lexer := do
  let lexer ← (lexer.unwind (-1)).dropKey
  return { lexer.push .finish with keys := [none], allowsKey := false }

private def scanDirective (lexer : Lexer) : Except Fault Lexer := do
  let lexer ← (lexer.unwind (-1)).dropKey
  let (directive, cursor) ← directive lexer.cursor
  return { lexer.push (.directive directive) with cursor, allowsKey := false }

private def scanDocumentMark (token : Token) (lexer : Lexer) : Except Fault Lexer := do
  let lexer ← (lexer.unwind (-1)).dropKey
  return { lexer.mark token 3 with allowsKey := false }

private def scanFlowStart (token : Token) (lexer : Lexer) : Except Fault Lexer := do
  let lexer ← lexer.noteKey
  return { lexer.mark token 1 with keys := none :: lexer.keys, allowsKey := true }

private def scanFlowEnd (token : Token) (lexer : Lexer) : Except Fault Lexer := do
  if !lexer.inFlow then .error .malformed
  else
    let lexer ← lexer.dropKey
    return { lexer.mark token 1 with keys := lexer.keys.tail, allowsKey := false }

private def scanFlowItem (lexer : Lexer) : Except Fault Lexer := do
  let lexer ← lexer.dropKey
  return { lexer.mark .flowItem 1 with allowsKey := true }

/-- Starts a block for an item or a key at the cursor, where one may begin. -/
private def openBlock (token : Token) (lexer : Lexer) : Except Fault Lexer :=
  if lexer.inFlow then .ok lexer
  else if !lexer.allowsKey then .error .malformed
  else .ok (lexer.startBlock lexer.cursor.column lexer.tokens.length token)

private def scanBlockItem (lexer : Lexer) : Except Fault Lexer := do
  let lexer ← lexer.openBlock .blockSequence
  let lexer ← lexer.dropKey
  return { lexer.mark .blockItem 1 with allowsKey := true }

private def scanKey (lexer : Lexer) : Except Fault Lexer := do
  let lexer ← lexer.openBlock .blockMapping
  let lexer ← lexer.dropKey
  return { lexer.mark .key 1 with allowsKey := !lexer.inFlow }

private def scanValue (lexer : Lexer) : Except Fault Lexer := do
  match lexer.keyStart? with
  | some key =>
    let lexer := (lexer.setKeyStart none).insert key.place .key
    let lexer :=
      if lexer.inFlow then lexer
      else lexer.startBlock key.cursor.column key.place .blockMapping
    return { lexer.mark .value 1 with allowsKey := false }
  | none =>
    let lexer ← lexer.openBlock .blockMapping
    return { lexer.mark .value 1 with allowsKey := !lexer.inFlow }

private def scanAlias (lexer : Lexer) : Except Fault Lexer := do
  let lexer ← lexer.noteKey
  let (name, cursor) ← anchorName lexer.cursor.advance
  return { lexer.push (.alias name) with cursor, allowsKey := false }

private def scanAnchor (lexer : Lexer) : Except Fault Lexer := do
  let lexer ← lexer.noteKey
  let (name, cursor) ← anchorName lexer.cursor.advance
  return { lexer.push (.anchor name) with cursor, allowsKey := false }

private def scanTag (lexer : Lexer) : Except Fault Lexer := do
  let lexer ← lexer.noteKey
  let (name, cursor) ← tagName lexer.cursor
  return { lexer.push (.tag name) with cursor, allowsKey := false }

private def scanBlockScalar (lexer : Lexer) : Except Fault Lexer := do
  let lexer ← lexer.dropKey
  let (content, cursor) ← blockScalar lexer.indent lexer.cursor
  return { lexer.push (.scalar false content) with cursor, allowsKey := true }

private def scanQuotedScalar (lexer : Lexer) : Except Fault Lexer := do
  let lexer ← lexer.noteKey
  let (content, cursor) ← quotedScalar lexer.cursor
  return { lexer.push (.scalar false content) with cursor, allowsKey := false }

private def scanPlainScalar (lexer : Lexer) : Except Fault Lexer := do
  let lexer ← lexer.noteKey
  let scalar := plainScalar lexer.inFlow (lexer.indent + 1) lexer.cursor
  return { lexer.push (.scalar true scalar.content) with
    cursor := scalar.cursor, allowsKey := scalar.crossedLine }

/-- Takes the token at the cursor. -/
private def scanToken (lexer : Lexer) : Except Fault Lexer :=
  let here := lexer.cursor.here
  let next := lexer.cursor.ahead 1
  let atStart := lexer.cursor.column == 0
  if lexer.cursor.atFinish then lexer.scanFinish
  else if here = '%' && atStart then lexer.scanDirective
  else if atStart && lexer.cursor.atMark '-' then lexer.scanDocumentMark .documentStart
  else if atStart && lexer.cursor.atMark '.' then lexer.scanDocumentMark .documentEnd
  else if here = '[' then lexer.scanFlowStart .flowSequence
  else if here = '\x7b' then lexer.scanFlowStart .flowMapping
  else if here = ']' then lexer.scanFlowEnd .flowSequenceEnd
  else if here = '\x7d' then lexer.scanFlowEnd .flowMappingEnd
  else if here = ',' then lexer.scanFlowItem
  else if here = '-' && isGap next then lexer.scanBlockItem
  else if here = '?' && (lexer.inFlow || isGap next) then lexer.scanKey
  else if here = ':' && (lexer.inFlow || isGap next) then lexer.scanValue
  else if here = '*' then lexer.scanAlias
  else if here = '&' then lexer.scanAnchor
  else if here = '!' then lexer.scanTag
  else if (here = '|' || here = '>') && !lexer.inFlow then lexer.scanBlockScalar
  else if here = '\'' || here = '"' then lexer.scanQuotedScalar
  else if startsPlain lexer.inFlow here next then lexer.scanPlainScalar
  else .error .malformed

/-- Takes the next token and those that its place implies. -/
def step (lexer : Lexer) : Except Fault Lexer := do
  let lexer ← lexer.toNext.dropStaleKeys
  (lexer.unwind lexer.cursor.column).scanToken

private def scanFrom : Nat → Lexer → List Token
  | 0, lexer => (Token.unreadable .malformed :: lexer.tokens).reverse
  | fuel + 1, lexer =>
    match lexer.step with
    | .error fault => (Token.unreadable fault :: lexer.tokens).reverse
    | .ok next =>
      if next.tokens.head? = some .finish then next.tokens.reverse else scanFrom fuel next

end Lexer

/-- The tokens of a text, of which the last is its end or a fault. -/
def Token.ofText (text : List Char) : List Token :=
  if text.all isAllowed then
    let lexer := Lexer.start text
    Lexer.scanFrom (lexer.cursor.fuel + 1) lexer
  else [.unreadable .malformed]

end Scaffold.Yaml
