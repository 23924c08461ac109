import Scaffold.CommandLine.Word
import Scaffold.Generator.Catalogue

/-!
# Command lines

The options of the program, a command, and the options and the name that the command takes, in any
order. Of an option that is given twice the last value counts.
-/

set_option autoImplicit false

namespace Scaffold.CommandLine

open Generator (Spec Invocation programName catalogue)

/-- A command line that cannot be read, and the program or command that says so. -/
structure UsageFault where
  program : String
  fault : ArgumentFault
  deriving DecidableEq, Repr

def UsageFault.message (usage : UsageFault) : String :=
  usage.program ++ ": error: " ++ usage.fault.message

/-- What a command line asks for. -/
inductive Outcome where
  | parsed (root : Option String) (lists : Bool) (chosen : Option (Spec × Invocation))
  | help

/-- What the words after a command give: values, a name, and what is not understood. -/
structure Given where
  values : Fields
  name : Option String
  nameTaken : Bool
  asksHelp : Bool
  others : List String

namespace Given

def start : Given :=
  ⟨[], none, false, false, []⟩

def set (name : String) (value : Value) (given : Given) : Given :=
  { given with values := given.values.put name value }

def refuse (word : String) (given : Given) : Given :=
  { given with others := given.others ++ [word] }

end Given

/-- Takes the words of a command; `text` is how a word was written. -/
def takeWords : List (Word × String) → Given → Except ArgumentFault Given
  | [], given => .ok given
  | (.unknown _, text) :: words, given => takeWords words (given.refuse text)
  | (.option known (some value), _) :: words, given =>
    if known.effect = .value then takeWords words (given.set known.name (.text value))
    else .error (.ignoredValue known.label value)
  | (.option known none, _) :: words, given =>
    match known.effect with
    | .switch => takeWords words (given.set known.name (.truth true))
    | .help => .ok { given with asksHelp := true }
    | .value =>
      match words with
      | (.argument value, _) :: words => takeWords words (given.set known.name (.text value))
      | _ => .error (.missingValue known.label)
  | (.argument name, text) :: words, given =>
    if given.nameTaken then takeWords words (given.refuse text)
    else
      let given := { given with name := some name, nameTaken := true }
      match words with
      | (.divider, _) :: words => takeWords words given
      | words => takeWords words given
  | (.divider, text) :: words, given =>
    if given.nameTaken then takeWords words (given.refuse text)
    else
      match words with
      | (.argument name, _) :: words =>
        takeWords words { given with name := some name, nameTaken := true }
      | words => takeWords words { given with nameTaken := true }

/-- The switches that every command takes. -/
def commonSwitches : List String :=
  ["dry-run", "preview"]

/-- The options of a command in the order of its usage line. -/
def optionNames (spec : Spec) : List String :=
  spec.valueOptions ++ spec.switches ++ commonSwitches

def commandOptions (spec : Spec) : List Known :=
  Known.help ++ spec.valueOptions.map (Known.ofName · .value) ++
    (spec.switches ++ commonSwitches).map (Known.ofName · .switch)

def takeCommand (spec : Spec) (texts : List String) : Except ArgumentFault Given := do
  let words ← Word.ofTexts (commandOptions spec) texts
  takeWords (words.zip texts) .start

/-- The invocation of a command: only what was given, in the order of its options. -/
def invocationOf (spec : Spec) (given : Given) : Invocation where
  positional := given.name.toList
  options := Keyed.ofList ((optionNames spec).filterMap fun name =>
    (given.values.get? name).map fun value => (name, value))

def programOptions : List Known :=
  Known.help ++ [Known.ofName "root" .value, Known.ofName "list" .switch]

/-- What the words before a command give. -/
structure Head where
  root : Option String
  lists : Bool
  others : List String

def failing {α : Type} (program : String) (result : Except ArgumentFault α) :
    Except UsageFault α :=
  result.mapError (⟨program, ·⟩)

def finish (head : Head) (others : List String)
    (chosen : Option (Spec × Invocation)) : Except UsageFault Outcome :=
  let unrecognized := head.others ++ others
  if unrecognized.isEmpty then .ok (.parsed head.root head.lists chosen)
  else .error ⟨programName, .unrecognized unrecognized⟩

def takeChosen (head : Head) (command : String) (texts : List String) :
    Except UsageFault Outcome :=
  match Generator.find? command with
  | none => .error ⟨programName, .unknownCommand command (catalogue.map Spec.command)⟩
  | some spec => do
    let given ← failing (programName ++ " " ++ command) (takeCommand spec texts)
    if given.asksHelp then return .help
    else finish head given.others (some (spec, invocationOf spec given))

/-- Takes the words up to a command, which takes all after it. -/
def takeHead : List (Word × String) → Head → Except UsageFault Outcome
  | [], head => finish head [] none
  | (.unknown _, text) :: words, head =>
    takeHead words { head with others := head.others ++ [text] }
  | (.option known (some value), _) :: words, head =>
    if known.effect = .value then takeHead words { head with root := some value }
    else .error ⟨programName, .ignoredValue known.label value⟩
  | (.option known none, _) :: words, head =>
    match known.effect with
    | .switch => takeHead words { head with lists := true }
    | .help => .ok .help
    | .value =>
      match words with
      | (.argument value, _) :: words => takeHead words { head with root := some value }
      | _ => .error ⟨programName, .missingValue known.label⟩
  | (.argument command, _) :: words, head => takeChosen head command (words.map Prod.snd)
  | (.divider, text) :: words, head =>
    match words with
    | [] => finish head [text] none
    | _ => takeChosen head text (words.map Prod.snd)

def parse (texts : List String) : Except UsageFault Outcome := do
  let words ← failing programName (Word.ofTexts programOptions texts)
  takeHead (words.zip texts) ⟨none, false, []⟩

end Scaffold.CommandLine
