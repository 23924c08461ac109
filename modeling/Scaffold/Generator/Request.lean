import Scaffold.Shape.Check
import Scaffold.Value.Fields

/-!
# Requests

What a generator is asked for once everything is checked: the name of the class to make, the
parameters and switches with their values, and what the project says about itself.
-/

set_option autoImplicit false

namespace Scaffold.Generator

structure Request where
  command : String
  name : String
  params : Fields
  switches : Fields
  project : Fields
  isDryRun : Bool

/-- A parameter or a switch that was asked for is not there. -/
structure MissingKey where
  name : String
  deriving DecidableEq, Repr

namespace Request

def param (request : Request) (name : String) : Except MissingKey Value :=
  match request.params.get? name with
  | some value => .ok value
  | none => .error ⟨name⟩

/-- Whether a switch is on. -/
def isOn (request : Request) (name : String) : Except MissingKey Bool :=
  match request.switches.get? name with
  | some value => .ok value.holds
  | none => .error ⟨name⟩

/-- The variables of a template: parameters and switches under their names, and the whole beside
them. -/
def context (request : Request) : Fields :=
  (request.params.overlay request.switches).overlay
    [("name", .text request.name), ("command_id", .text request.command),
      ("flags", request.switches.toValue), ("project", request.project.toValue)]

def field {α : Type} (fields : Fields) (name : String) (check : Value → Checked α)
    (absent : Checked α) : Checked α :=
  ((fields.get? name).elim absent check).within name

/-- The request that fields describe. -/
def ofFields (fields : Fields) : Checked Request :=
  let values := Checked.mapping Checked.anything
  ((field fields "command_id" Checked.text (.fail .missing)).and
      (field fields "name" Checked.text (.fail .missing))).and
    (((field fields "params" values (.ok [])).and (field fields "flags" values (.ok []))).and
      ((field fields "project" values (.ok [])).and
        (field fields "dry_run" Checked.truth (.ok false))))
    |>.map fun ((command, name), ((params, switches), (project, isDryRun))) =>
      ⟨command, name, params, switches, project, isDryRun⟩

end Request

/-- What is given for one run: names in order, and options with their values. -/
structure Invocation where
  positional : List String
  options : Fields

namespace Invocation

/-- The options that ask for a preview only. -/
def previewOptions : List String :=
  ["dry-run", "preview"]

def isDryRun (invocation : Invocation) : Bool :=
  previewOptions.any invocation.options.has

end Invocation

end Scaffold.Generator
