import Scaffold.Generator.Modules
import Scaffold.Settings.Precedence

/-!
# From an invocation to a request

A name must be given, then the module, the entity and the other parameters that the generator needs.
Only then are the settings read, for the switches and options.
-/

set_option autoImplicit false

namespace Scaffold.Generator

def stored {α : Type} (action : WorkspaceAction Settings.StoreFault α) : Action α := do
  match ← WorkspaceAction.attempt action with
  | .ok value => return value
  | .error (.disk fault) => throw (.mishap (.disk fault))
  | .error (.scalar fault) => throw (.mishap (.scalar fault))

/-- The name of the class to make, with the suffix of its kind. -/
def className (spec : Spec) (invocation : Invocation) : Action String :=
  let base := Text.pascalCase (invocation.positional.headD "")
  if base = "" then refuse (.missingName spec.kind spec.sample spec.usage)
  else return Text.withSuffix base spec.suffix

def neededParams (root : Path) (spec : Spec) (options : Fields) : Action Fields := do
  match spec.need with
  | .nothing => return []
  | .module =>
    let module ← resolveModule root spec.command options (some spec.usage)
    return [("module", .text module)]
  | .moduleAndEntity =>
    let (module, entity) ← resolveModuleAndEntity root spec.command options
    return [("module", .text module), ("entity", .text entity)]

def requiredParams (spec : Spec) (options : Fields) : Action Fields := do
  requireParameters spec.command options spec.required (some spec.usage)
  return spec.required.map fun name =>
    (name, .text (Text.pascalCase (((options.get? name).getD .null).display)))

def optionParams (root : Path) (spec : Spec) (options : Fields) :
    Keyed String Value → Action Fields
  | [] => return []
  | (name, builtIn) :: others => do
    let value ← stored (Settings.resolveOption root spec.command options name builtIn)
    return (name, value) :: (← optionParams root spec options others)

def prepare (root : Path) (spec : Spec) (invocation : Invocation) : Action Request := do
  let options := invocation.options
  let name ← className spec invocation
  let needed ← neededParams root spec options
  let required ← requiredParams spec options
  let switches ← stored (Settings.resolveSwitches root spec.command options spec.switches)
  let chosen ← optionParams root spec options spec.options
  let settings ← stored (Settings.load root)
  return {
    command := spec.command
    name
    params := Keyed.ofList (needed ++ required ++ chosen)
    switches := switches.map fun switch => (switch.1, .truth switch.2)
    project := settings.project.toFields
    isDryRun := invocation.isDryRun }

end Scaffold.Generator
