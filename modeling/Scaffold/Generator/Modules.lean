import Scaffold.Generator.Spec
import Scaffold.Text.EditDistance
import Scaffold.Text.Affix
import Scaffold.Workspace

/-!
# Modules of a project

The modules of a project are the directories in its presentation directory that are not hidden. A
module that is given must be there; if it is not, those with a similar name are suggested.
-/

set_option autoImplicit false

namespace Scaffold.Generator

/-- The names on the way from the root of a project to its modules. -/
def moduleDirectory : List String :=
  ["src", "presentation"]

def moduleRoot (root : Path) : Path :=
  root.descend moduleDirectory

/-- The suffix that a module may be named without. -/
def moduleSuffix : String := "api"

/-- The edit distance of a text to the name of a module, with its suffix or without. Upper and lower
case are the same. -/
def moduleDistance (attempted module : String) : Nat :=
  let attempted := Text.lower attempted.toList
  let candidate := Text.lowerCase module
  let stem := Text.stripSuffix candidate moduleSuffix
  min (Text.editDistance attempted candidate.toList) (Text.editDistance attempted stem.toList)

/-- How far a suggested module may be from what was given. -/
def suggestionLimit : Nat := 3

def isHidden (name : String) : Bool :=
  name.startsWith "."

abbrev Action := WorkspaceAction Failure

def onDisk {α : Type} (action : DiskAction DiskFault α) : Action α :=
  WorkspaceAction.onDisk (action.adapt fun fault => Failure.mishap (.disk fault))

def refuse {α : Type} (refusal : Refusal) : Action α :=
  throw (.refused refusal)

/-- The modules of a project in code point order. -/
def listModules (root : Path) : Action (List String) := do
  if ← onDisk (DiskAction.isDirectory (moduleRoot root)) then
    let names ← onDisk (DiskAction.directoryNames (moduleRoot root))
    return names.filter (!isHidden ·)
  else return []

/-- The modules with a name similar to a text. -/
def suggestModules (root : Path) (attempted : String) : Action (List String) := do
  let modules ← listModules root
  return modules.filter fun module => moduleDistance attempted module ≤ suggestionLimit

/-- Whether a parameter is given and not blank. -/
def isGiven (options : Fields) (name : String) : Bool :=
  match options.get? name with
  | none => false
  | some .null => false
  | some value => !Text.isAllBlank value.display.toList

/-- A usage line that is given and not empty, or the usual one. -/
def usageOr (usual : String) (usage : Option String) : String :=
  (usage.filter (· ≠ "")).getD usual

def usageFor (command parameters : String) : String :=
  programName ++ " " ++ command ++ " <name> " ++ parameters

/-- Refuses if one of the parameters is not given. -/
def requireParameters (command : String) (options : Fields) (names : List String)
    (usage : Option String) : Action Unit := do
  let missing := names.filter fun name => !isGiven options name
  if missing.isEmpty then return ()
  else
    let usual := usageFor command (" ".intercalate (names.map Spec.requiredUsage))
    refuse (.missingParameters missing (usageOr usual usage))

/-- Refuses if there is no module of a name. -/
def ensureModule (root : Path) (module : String) : Action Unit := do
  if ← onDisk (DiskAction.isDirectory ((moduleRoot root).child module)) then return ()
  else
    let similar ← suggestModules root module
    let available ← if similar.isEmpty then listModules root else pure []
    refuse (.unknownModule module similar available)

def nameOf (options : Fields) (name : String) : String :=
  Text.pascalCase (((options.get? name).getD .null).display)

/-- The module that is given. -/
def resolveModule (root : Path) (command : String) (options : Fields) (usage : Option String) :
    Action String := do
  if isGiven options "module" then
    let module := nameOf options "module"
    ensureModule root module
    return module
  else
    refuse (.missingModule (← listModules root)
      (usageOr (usageFor command "--module=<Module>") usage))

/-- The module and the entity that are given. -/
def resolveModuleAndEntity (root : Path) (command : String) (options : Fields) :
    Action (String × String) := do
  if isGiven options "module" && isGiven options "entity" then
    let module := nameOf options "module"
    ensureModule root module
    return (module, nameOf options "entity")
  else
    let suggestions ←
      if isGiven options "module" then pure [] else availableHint <$> listModules root
    refuse (.missingModuleOrEntity suggestions
      (usageFor command "--module=<Module> --entity=<Entity>"))

end Scaffold.Generator
