import Scaffold.Text.Letters
import Scaffold.Text.Quoted
import Scaffold.Text.Search

/-!
# Words of a command line

A word is an argument, an option, or the divider after which every word is an argument. An option
may be shortened as long as no other begins like it, and its value may follow an equals sign. A
number with a minus sign and a word with a space in it are arguments.
-/

set_option autoImplicit false

namespace Scaffold.CommandLine

/-- What an option does: it takes a value, turns something on, or asks for help. -/
inductive Effect where
  | value
  | switch
  | help
  deriving DecidableEq, Repr

/-- An option: its spelling, how messages call it, what it sets and its effect. -/
structure Known where
  spelling : String
  label : String
  name : String
  effect : Effect
  deriving DecidableEq, Repr

namespace Known

def ofName (name : String) (effect : Effect) : Known :=
  ⟨"--" ++ name, "--" ++ name, name, effect⟩

/-- The options that every command has. -/
def help : List Known :=
  [⟨"-h", "-h/--help", "help", .help⟩, ⟨"--help", "-h/--help", "help", .help⟩]

end Known

inductive Word where
  | argument (text : String)
  | divider
  | option (known : Known) (value : Option String)
  | unknown (text : String)
  deriving DecidableEq, Repr

inductive ArgumentFault where
  | ambiguous (word : String) (spellings : List String)
  | missingValue (label : String)
  | ignoredValue (label value : String)
  | unknownCommand (given : String) (commands : List String)
  | unrecognized (words : List String)
  deriving DecidableEq, Repr

def ArgumentFault.message : ArgumentFault → String
  | .ambiguous word spellings =>
    "ambiguous option: " ++ word ++ " could match " ++ ", ".intercalate spellings
  | .missingValue label => "argument " ++ label ++ ": expected one argument"
  | .ignoredValue label value =>
    "argument " ++ label ++ ": ignored explicit argument " ++ Text.quote value
  | .unknownCommand given commands =>
    "argument <command>: invalid choice: " ++ Text.quote given ++ " (choose from " ++
      ", ".intercalate (commands.map Text.quote) ++ ")"
  | .unrecognized words => "unrecognized arguments: " ++ " ".intercalate words

def dropFinalFeed (text : List Char) : List Char :=
  match text.reverse with
  | '\n' :: rest => rest.reverse
  | _ => text

/-- Whether a word is a minus sign and a whole or decimal number. -/
def isNegativeNumber : List Char → Bool
  | '-' :: rest =>
    let digits := dropFinalFeed rest
    match digits.dropWhile Text.isDecimalDigit with
    | [] => !digits.isEmpty
    | '.' :: fraction => !fraction.isEmpty && fraction.all Text.isDecimalDigit
    | _ => false
  | _ => false

/-- The part of a word before the first equals sign and, if there is one, the part after it. -/
def splitValue (word : List Char) : List Char × Option (List Char) :=
  match word.dropWhile (· ≠ '=') with
  | [] => (word, none)
  | _ :: value => (word.takeWhile (· ≠ '='), some value)

def hasStart (start : List Char) (known : Known) : Bool :=
  (Text.after? start known.spelling.toList).isSome

/-- The options that a word may stand for, with their values. -/
def candidates (known : List Known) (word : List Char) :
    List (Known × Option String) :=
  match word with
  | '-' :: '-' :: _ =>
    let (start, value) := splitValue word
    (known.filter (hasStart start)).map fun option => (option, value.map String.ofList)
  | _ =>
    let letter := String.ofList (word.take 2)
    (known.filter fun option => option.spelling = letter || hasStart word option).map fun option =>
      (option, none)

def isOther (word : List Char) : Bool :=
  isNegativeNumber word || word.contains ' '

/-- What a word is that begins with a hyphen and has more characters. -/
def hyphenated (known : List Known) (word : String) : Except ArgumentFault Word :=
  let (start, value) := splitValue word.toList
  match known.find? (·.spelling = word), known.find? (·.spelling.toList = start), value with
  | some option, _, _ => .ok (.option option none)
  | none, some option, some value => .ok (.option option (some (String.ofList value)))
  | none, _, _ =>
    match candidates known word.toList with
    | [] => .ok (if isOther word.toList then .argument word else .unknown word)
    | [(option, value)] => .ok (.option option value)
    | several => .error (.ambiguous word (several.map fun option => option.1.spelling))

/-- What a word is that no divider precedes. -/
def Word.ofText (known : List Known) (text : String) : Except ArgumentFault Word :=
  match text.toList with
  | '-' :: _ :: _ => hyphenated known text
  | _ => .ok (.argument text)

/-- What the words of a command line are. -/
def Word.ofTexts (known : List Known) : List String → Except ArgumentFault (List Word)
  | [] => .ok []
  | "--" :: texts => .ok (.divider :: texts.map .argument)
  | text :: texts => do
    let word ← Word.ofText known text
    return word :: (← Word.ofTexts known texts)

end Scaffold.CommandLine
