import Scaffold.Composition.Register
import Scaffold.Generator.Create
import Scaffold.Generator.Prepare

/-!
# Runs

A run prepares a request, makes the files for it, registers the class in its module if the generator
says so, and advises on what to do next. It exits with 1 if it is refused, and with 0 otherwise.
-/

set_option autoImplicit false

namespace Scaffold.Generator

def moduleOf (request : Request) : Action Value :=
  match request.param "module" with
  | .ok value => return value
  | .error missing => throw (.mishap (.missingKey missing.name))

def moduleFile (module : String) : String :=
  module ++ "Module.php"

/-- The composition file of a module. -/
def compositionFile (root : Path) (module : String) : Path :=
  ((moduleRoot root).child module).child (moduleFile module)

/-- The full name of a controller of a module. -/
def controllerClass (module name : String) : String :=
  "Presentation\\" ++ module ++ "\\Controllers\\" ++ name

def registerFile (path : Path) (className name : String) : Action Composition.Outcome :=
  WorkspaceAction.onDisk <| (Composition.register path className name).adapt fun fault =>
    match fault with
    | .disk fault => Failure.mishap (.disk fault)
    | .nullCharacter => Failure.mishap .nullCharacter

def reportOutcome (file : String) (outcome : Composition.Outcome) : Action Unit := do
  match outcome with
  | .registered => WorkspaceAction.report (Console.success ("Registered in " ++ file))
  | .alreadyRegistered => WorkspaceAction.report (Console.note ("Already registered in " ++ file))
  | outcome =>
    WorkspaceAction.report (Console.warning
      ("Note: Could not auto-register. Please add to " ++ file ++ " manually."))
    if outcome.reason ≠ "" then
      WorkspaceAction.report (Console.note ("   " ++ outcome.reason))

/-- Registers the class of a request in its module, or tells of it in a dry run. -/
def registerRequest (root : Path) (request : Request) : Action Unit := do
  let module ← moduleOf request
  let file := moduleFile module.display
  if request.isDryRun then
    WorkspaceAction.report
      (Console.note ("Would register " ++ request.name ++ " in " ++ file))
  else
    match module with
    | .text module =>
      let outcome ← registerFile (compositionFile root module)
        (controllerClass module request.name) request.name
      reportOutcome file outcome
    | module => throw (.mishap (.notPathName module))

def reportSteps : List String → Action Unit
  | [] => return ()
  | step :: steps => do
    WorkspaceAction.report (Console.line step)
    reportSteps steps

def advise (spec : Spec) (request : Request) : Action Unit := do
  match spec.nextSteps with
  | none => return ()
  | some nextSteps =>
    if !request.isDryRun then
      match nextSteps request with
      | .error missing => throw (.mishap (.missingKey missing.name))
      | .ok [] => return ()
      | .ok steps =>
        WorkspaceAction.report (Console.line "")
        reportSteps steps

def provided (spec : Spec) (request : Request) : Action (List Artifact) :=
  match spec.provide request with
  | .ok artifacts => return artifacts
  | .error mishap => throw (.mishap mishap)

/-- Prepares a request and makes its files. -/
def generate (root : Path) (spec : Spec) (invocation : Invocation) : Action Request := do
  let request ← prepare root spec invocation
  let artifacts ← provided spec request
  let _ ← materialize root request.isDryRun artifacts
  return request

def complete (root : Path) (spec : Spec) (request : Request) : Action Unit := do
  if spec.registers then registerRequest root request
  advise spec request

def reportRefusal (refusal : Refusal) : Action Unit :=
  WorkspaceAction.report
    (Console.structuredError refusal.message refusal.suggestions refusal.usage)

/-- Runs a generator and gives the exit code. -/
def run (root : Path) (spec : Spec) (invocation : Invocation) : Action Nat := do
  match ← WorkspaceAction.attempt (generate root spec invocation) with
  | .error (.refused refusal) =>
    reportRefusal refusal
    return 1
  | .error (.mishap mishap) => throw (.mishap mishap)
  | .ok request =>
    complete root spec request
    return 0

end Scaffold.Generator
