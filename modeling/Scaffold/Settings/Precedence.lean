import Scaffold.Settings.Store

/-!
# Precedence

An option that is given counts before the settings for its generator, those before the settings for
all generators, and those before what is built in. A switch that is given is on whatever its value,
and a configured null is no value of an option.
-/

set_option autoImplicit false

namespace Scaffold.Settings

def switchIsOn (configured given : Fields) (name : String) : Bool :=
  given.has name || ((configured.get? name).map Value.holds).getD false

def switchValues (configured given : Fields) (names : List String) : Keyed String Bool :=
  Keyed.ofList (names.map fun name => (name, switchIsOn configured given name))

/-- The configured value of an option, or what is built in. -/
def configuredValue (configured : Fields) (name : String) (builtIn : Value) : Value :=
  match configured.get? name with
  | some .null => builtIn
  | some value => value
  | none => builtIn

def optionValue (configured given : Fields) (name : String) (builtIn : Value) : Value :=
  (given.get? name).getD (configuredValue configured name builtIn)

/-- The values of switches of a generator. -/
def resolveSwitches (root : Path) (command : String) (given : Fields) (names : List String) :
    WorkspaceAction StoreFault (Keyed String Bool) := do
  return switchValues ((← load root).valuesFor command) given names

/-- The value of an option of a generator; the settings are not read if it is given. -/
def resolveOption (root : Path) (command : String) (given : Fields) (name : String)
    (builtIn : Value) : WorkspaceAction StoreFault Value := do
  match given.get? name with
  | some value => return value
  | none => return configuredValue ((← load root).valuesFor command) name builtIn

end Scaffold.Settings
