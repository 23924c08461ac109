import Scaffold.Disk.Write
import Scaffold.Generator.Request
import Scaffold.Template.Filter
import Scaffold.Text.LetterCase
import Scaffold.Text.Phrase
import Scaffold.Yaml.Fault

/-!
# Refusals and mishaps

A run is refused for a reason that its user can act on: it is told with what to try instead and with
the correct usage. A mishap ends the run where it happens.
-/

set_option autoImplicit false

namespace Scaffold.Generator

def programName : String := "spatialgen"

inductive Refusal where
  | missingName (kind sample usage : String)
  | missingParameters (names : List String) (usage : String)
  | missingModule (available : List String) (usage : String)
  | missingModuleOrEntity (suggestions : List String) (usage : String)
  | unknownModule (module : String) (similar available : List String)
  | alreadyExists (kind : String) (path : Path) (written : List Path)
  | unwritten (kind : String) (path : Path) (reason : String) (written : List Path)
  deriving DecidableEq, Repr

/-- The article before a word, by its first letter. -/
def article (word : String) : String :=
  match word.toList with
  | [] => "an"
  | first :: _ =>
    match Text.lower [first] with
    | [letter] => if "aeiou".toList.contains letter then "an" else "a"
    | _ => "a"

def capitalized (word : String) : String :=
  String.ofList (Text.capitalize word.toList)

/-- Names the modules that there are. -/
def availableHint (modules : List String) : List String :=
  if modules.isEmpty then
    ["No modules found. Create one with: " ++ programName ++ " make:module <ModuleName>"]
  else ["Available modules: " ++ Text.commaSeparated modules]

def moduleHint (similar available : List String) : List String :=
  if !similar.isEmpty then ["Did you mean: " ++ Text.commaSeparated similar ++ "?"]
  else if !available.isEmpty then ["Available modules: " ++ Text.commaSeparated available]
  else []

namespace Refusal

def message : Refusal → String
  | .missingName kind _ _ => "Please provide " ++ article kind ++ " " ++ kind ++ " name."
  | .missingParameters names _ =>
    Text.commaSeparated (names.map ("--" ++ ·)) ++
      (if names.length = 1 then " parameter is" else " parameters are") ++ " required."
  | .missingModule _ _ => "--module parameter is required."
  | .missingModuleOrEntity _ _ => "Both --module and --entity parameters are required."
  | .unknownModule module _ _ => "Module '" ++ module ++ "' not found."
  | .alreadyExists kind path _ => capitalized kind ++ " already exists: " ++ path.toString
  | .unwritten kind path reason _ =>
    "Failed to create " ++ kind ++ ": " ++ path.toString ++ " (" ++ reason ++ ")"

def suggestions : Refusal → List String
  | .missingName _ sample _ => if sample = "" then [] else ["Example: " ++ sample]
  | .missingModule available _ => availableHint available
  | .missingModuleOrEntity suggestions _ => suggestions
  | .unknownModule module similar available =>
    moduleHint similar available ++
      ["Create the module first: " ++ programName ++ " make:module " ++ module]
  | _ => []

def usage : Refusal → Option String
  | .missingName _ _ usage => some usage
  | .missingParameters _ usage => some usage
  | .missingModule _ usage => some usage
  | .missingModuleOrEntity _ usage => some usage
  | _ => none

/-- The files that were made before the refusal. -/
def written : Refusal → List Path
  | .alreadyExists _ _ written => written
  | .unwritten _ _ _ written => written
  | _ => []

/-- The same refusal after more files were made. -/
def after (made : List Path) : Refusal → Refusal
  | .alreadyExists kind path _ => .alreadyExists kind path made
  | .unwritten kind path reason _ => .unwritten kind path reason made
  | refusal => refusal

end Refusal

inductive Mishap where
  | disk (fault : DiskFault)
  | nullCharacter
  | scalar (fault : Yaml.ScalarFault)
  | missingKey (name : String)
  | render (fault : RenderFault)
  | filter (fault : Template.FilterFault)
  | misshapen (problems : List Problem)
  | notPathName (value : Value)
  deriving Repr

namespace Mishap

def message : Mishap → String
  | .disk fault => fault.message
  | .nullCharacter => "embedded null byte"
  | .scalar fault => fault.message
  | .missingKey name => Text.quote name
  | .render fault => fault.message
  | .filter fault => fault.message
  | .misshapen _ => ""
  | .notPathName value =>
    "unsupported operand type(s) for /: 'PosixPath' and '" ++ value.kindName ++ "'"

end Mishap

inductive Failure where
  | refused (refusal : Refusal)
  | mishap (mishap : Mishap)
  deriving Repr

end Scaffold.Generator
