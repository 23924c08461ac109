import Scaffold.Generator.Provide

/-!
# The catalogue of generators
-/

set_option autoImplicit false

namespace Scaffold.Generator

abbrev Steps := Request → Except MissingKey (List String)

def jobSteps : Steps := fun request => do
  return ["Dispatch job:", "  $queue->dispatch(new " ++ request.name ++ "($data));",
    "Process jobs:", "  spatial queue:work --queue=" ++ (← request.param "queue").display]

def eventSteps : Steps := fun request =>
  return ["Create a listener with:",
    "  spatialgen make:listener Handle" ++ request.name ++ " --event=" ++ request.name]

def entitySteps : Steps := fun _ =>
  return ["Next steps:", "  1. Add properties to the entity",
    "  2. Run doctrine:schema:update to create tables"]

def seederSteps : Steps := fun request =>
  return ["Run seeder with:", "  spatial db:seed --class=" ++ request.name]

def traitSteps : Steps := fun request =>
  return ["Usage in your Command/Query:",
    "  use Core\\Application\\Traits\\" ++ request.name ++ ";",
    "  class MyCommand extends Request \x7b", "      use " ++ request.name ++ ";", "  \x7d"]

def fixedSteps (steps : List String) : Steps := fun _ =>
  return steps

def requestSwitches : List String :=
  ["logging", "tracing", "releaseEntity"]

def commandSpec : Spec :=
  { Spec.basic "make:command" "Create a new CQRS command and handler" "command" provideCommand with
    switches := requestSwitches
    need := .moduleAndEntity
    sample := "spatialgen make:command CreateUser --module=Identity --entity=User --logging" }

def querySpec : Spec :=
  { Spec.basic "make:query" "Create a new CQRS query and handler" "query" provideQuery with
    switches := requestSwitches
    need := .moduleAndEntity
    sample := "spatialgen make:query GetUsers --module=Identity --entity=User" }

def controllerSpec : Spec :=
  { Spec.basic "make:controller" "Create a new controller class in a module" "controller"
      provideController with
    suffix := "Controller"
    switches := ["logging", "tracing", "auth"]
    need := .module
    registers := true
    sample := "spatialgen make:controller User --module=IdentityApi --auth" }

def jobSpec : Spec :=
  { Spec.basic "make:job" "Create a new queued background job" "job" provideJob with
    suffix := "Job"
    switches := ["logging", "tracing"]
    options := [("queue", .text "default"), ("tries", .integer 3), ("timeout", .integer 60)]
    sample := "spatialgen make:job SendEmail --queue=emails"
    nextSteps := some jobSteps }

def eventSpec : Spec :=
  { Spec.basic "make:event" "Create a new domain event" "event" provideEvent with
    suffix := "Event"
    options := [("module", .text "App")]
    sample := "spatialgen make:event OrderCreated --module=Orders"
    nextSteps := some eventSteps }

def listenerSpec : Spec :=
  { Spec.basic "make:listener" "Create a new event listener" "listener" provideListener with
    suffix := "Listener"
    switches := ["logging", "tracing"]
    required := ["event"]
    sample := "spatialgen make:listener SendConfirmationEmail --event=OrderCreatedEvent"
    nextSteps := some (fixedSteps ["Register this listener in your event configuration."]) }

def serviceSpec : Spec :=
  { Spec.basic "make:service" "Create a new infrastructure service" "service" provideService with
    suffix := "Service"
    options := [("folder", .text "Services")]
    sample := "spatialgen make:service PaymentGateway --folder=Gateway"
    nextSteps := some
      (fixedSteps ["Don't forget to register this service as a provider in your module!"]) }

def middlewareSpec : Spec :=
  { Spec.basic "make:middleware" "Create a new PSR-15 middleware" "middleware"
      provideMiddleware with
    suffix := "Middleware"
    options := [("folder", .text "Middlewares")]
    sample := "spatialgen make:middleware RateLimit"
    nextSteps := some (fixedSteps ["Register in your module providers to use it."]) }

def entitySpec : Spec :=
  { Spec.basic "make:entity" "Create a new Doctrine entity" "entity" provideEntity with
    options := [("schema", .text "Default")]
    sample := "spatialgen make:entity User --schema=Identity"
    nextSteps := some entitySteps }

def seederSpec : Spec :=
  { Spec.basic "make:seeder" "Create a new database seeder" "seeder" provideSeeder with
    suffix := "Seeder"
    options := [("connection", .text "default")]
    sample := "spatialgen make:seeder UserSeeder"
    nextSteps := some seederSteps }

def traitSpec : Spec :=
  { Spec.basic "make:trait" "Create a new domain trait (entity manager access by default)" "trait"
      provideTrait with
    suffix := "Trait"
    options := [("type", .text "db")]
    sample := "spatialgen make:trait Identity --type=db"
    nextSteps := some traitSteps }

def catalogue : List Spec :=
  [commandSpec, querySpec, controllerSpec, jobSpec, eventSpec, listenerSpec, serviceSpec,
    middlewareSpec, entitySpec, seederSpec, traitSpec]

/-- The generator of a command. -/
def find? (command : String) : Option Spec :=
  catalogue.find? (·.command = command)

end Scaffold.Generator
