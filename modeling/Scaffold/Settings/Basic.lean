import Scaffold.Shape.Check
import Scaffold.Value.Fields
import Scaffold.Yaml.Content

/-!
# Settings of a project

Settings hold values for options, for all generators and for single ones, and what the project says
about itself. A section without a body reads as empty, and sections of other names are left aside.
-/

set_option autoImplicit false

namespace Scaffold

structure Project where
  baseNamespace : Option String
  paths : Keyed String String
  others : Fields

namespace Project

def empty : Project :=
  ⟨none, [], []⟩

/-- The project section as values, what it must have first. -/
def toFields (project : Project) : Fields :=
  ("namespace", match project.baseNamespace with
    | some name => .text name
    | none => .null) ::
  ("paths", .mapping (project.paths.map fun path => (.text path.1, .text path.2))) ::
  project.others

end Project

structure Settings where
  defaults : Fields
  overrides : Keyed String Fields
  project : Project

namespace Settings

def fileName : String := ".spatial.yml"

def empty : Settings :=
  ⟨[], [], .empty⟩

end Settings

/-- Why a text holds no settings. -/
inductive SettingsFault where
  | unreadable (reason : String)
  | malformed
  | notMapping
  | misshapen (problems : List Problem)
  deriving DecidableEq, Repr

namespace SettingsFault

def invalid (reason : String) : String :=
  "Invalid " ++ Settings.fileName ++ " file: " ++ reason

def message : SettingsFault → String
  | .unreadable reason => "Could not read " ++ Settings.fileName ++ ": " ++ reason
  | .malformed => invalid "..."
  | .notMapping => invalid "expected a mapping at the top level"
  | .misshapen _ => invalid "..."

end SettingsFault

namespace Settings

abbrev Entries := List (Value × Value)

def under? (name : String) (entries : Entries) : Option Value :=
  (entries.find? (·.1.isText name)).map Prod.snd

def emptyIfNull : Value → Value
  | .null => .mapping []
  | value => value

def emptyBodies : Value → Value
  | .null => .mapping []
  | .mapping entries => .mapping (entries.map fun (name, body) => (name, emptyIfNull body))
  | value => value

/-- The settings for all generators and those for single ones. -/
def checkGenerators : Value → Checked (Fields × Keyed String Fields)
  | .mapping entries =>
    let defaults := emptyIfNull ((under? "defaults" entries).getD .null)
    let overrides := emptyBodies ((under? "overrides" entries).getD .null)
    ((Checked.mapping Checked.anything defaults).within "defaults").and
      ((Checked.mapping (Checked.mapping Checked.anything) overrides).within "overrides")
  | _ => .fail .notSection

def isKnown (key : Value) : Bool :=
  key.isText "namespace" || key.isText "paths"

def checkOthers : Entries → Checked Fields
  | [] => .ok []
  | (key, value) :: entries =>
    if isKnown key then checkOthers entries
    else
      let name : Checked String :=
        match key with
        | .text name => .ok name
        | key => (Checked.fail .notName).within (Problem.keyName key)
      (name.and (checkOthers entries)).map fun (name, others) => (name, value) :: others

def checkProject : Value → Checked Project
  | .mapping entries =>
    let baseNamespace := Checked.optionalText ((under? "namespace" entries).getD .null)
    let paths := Checked.mapping Checked.text ((under? "paths" entries).getD (.mapping []))
    ((baseNamespace.within "namespace").and (paths.within "paths")).and (checkOthers entries)
      |>.map fun ((baseNamespace, paths), others) => ⟨baseNamespace, paths, others⟩
  | _ => .fail .notSection

def checkSections (entries : Entries) : Checked Settings :=
  let section? (name : String) : Value :=
    match (under? name entries).getD .null with
    | .null => .mapping []
    | value => value
  ((checkGenerators (section? "generators")).within "generators").and
      ((checkProject (section? "project")).within "project")
    |>.map fun ((defaults, overrides), project) => ⟨defaults, overrides, project⟩

/-- The settings that a value holds, none for null. -/
def ofValue : Value → Except SettingsFault Settings
  | .null => .ok .empty
  | .mapping entries => (checkSections entries).mapError .misshapen
  | _ => .error .notMapping

/-- Why the text of a file gives no settings: they are faulty, or a scalar has no value. -/
inductive ReadingFault where
  | settings (fault : SettingsFault)
  | scalar (fault : Yaml.ScalarFault)

def ofText (text : String) : Except ReadingFault Settings :=
  match Yaml.read text with
  | .error .malformed => .error (.settings .malformed)
  | .error (.scalar fault) => .error (.scalar fault)
  | .ok value => (ofValue value).mapError .settings

/-- The configured values for one generator: its own over those for all. -/
def valuesFor (settings : Settings) (command : String) : Fields :=
  settings.defaults.overlay ((Keyed.get? command settings.overrides).getD [])

end Settings

end Scaffold
