import Scaffold.Artifact.Basic
import Scaffold.Generator.Fault

/-!
# Generators

A generator as data: what it is called and makes, which switches and options it takes, what must be
given, and how its artifacts and its advice follow from a request.
-/

set_option autoImplicit false

namespace Scaffold.Generator

/-- What a generator must be told of the place of its artifacts. -/
inductive Need where
  | nothing
  | module
  | moduleAndEntity
  deriving DecidableEq, Repr

structure Spec where
  command : String
  description : String
  kind : String
  suffix : String
  switches : List String
  options : Keyed String Value
  need : Need
  required : List String
  registers : Bool
  sample : String
  provide : Request → Except Mishap (List Artifact)
  nextSteps : Option (Request → Except MissingKey (List String))

namespace Spec

/-- A generator that takes nothing but a name. -/
def basic (command description kind : String)
    (provide : Request → Except Mishap (List Artifact)) : Spec where
  command
  description
  kind
  suffix := ""
  switches := []
  options := []
  need := .nothing
  required := []
  registers := false
  sample := ""
  provide
  nextSteps := none

/-- How a parameter that must be given stands in a usage line. -/
def requiredUsage (name : String) : String :=
  "--" ++ name ++ "=<" ++ Text.pascalCase name ++ ">"

def needUsage : Need → List String
  | .nothing => []
  | .module => ["--module=<Module>"]
  | .moduleAndEntity => ["--module=<Module>", "--entity=<Entity>"]

def usage (spec : Spec) : String :=
  " ".intercalate
    ([programName, spec.command, "<name>"] ++ needUsage spec.need ++
      spec.required.map requiredUsage ++
      spec.options.map (fun option => "[--" ++ option.1 ++ "=<" ++ option.1 ++ ">]") ++
      spec.switches.map (fun name => "[--" ++ name ++ "]") ++ ["[--dry-run]"])

/-- The options of a generator that take a value, each once. -/
def valueOptions (spec : Spec) : List String :=
  let needed :=
    match spec.need with
    | .nothing => []
    | .module => ["module"]
    | .moduleAndEntity => ["module", "entity"]
  (Keyed.ofList ((needed ++ spec.required ++ spec.options.map Prod.fst).map (·, ()))).map Prod.fst

end Spec

end Scaffold.Generator
