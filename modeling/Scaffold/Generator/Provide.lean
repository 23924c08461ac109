import Scaffold.Generator.Spec
import Scaffold.Template.Imports
import Scaffold.Template.Library
import Scaffold.Text.Affix

/-!
# Artifacts of a request

Which files the generators make for a request: their paths, the templates they are rendered from,
and the variables that those need beside the request.
-/

set_option autoImplicit false

namespace Scaffold.Generator

abbrev Provider := Request → Except Mishap (List Artifact)

def given {α : Type} (result : Except MissingKey α) : Except Mishap α :=
  result.mapError fun missing => .missingKey missing.name

def param (request : Request) (name : String) : Except Mishap Value :=
  given (request.param name)

def paramText (request : Request) (name : String) : Except Mishap String := do
  return (← param request name).display

def isOn (request : Request) (name : String) : Except Mishap Bool :=
  given (request.isOn name)

def artifact (path kind : String) (template : Template) (context : Fields) :
    Except Mishap Artifact := do
  let content ← (template.render context).mapError .render
  (Artifact.make path content kind).mapError .misshapen

/-- The variables of a request with others over them. -/
def contextWith (request : Request) (added : Fields) : Fields :=
  request.context.overlay added

def nameList (names : List String) : Value :=
  .list (names.map .text)

def loggerImport : String := "Psr\\Log\\LoggerInterface"

def tracerImport : String := "OpenTelemetry\\API\\Trace\\TracerInterface"

def statusImport : String := "OpenTelemetry\\API\\Trace\\StatusCode"

def authorizeImport : String := "Spatial\\Core\\Attributes\\Authorize"

def authenticationImport : String := "Infrastructure\\Services\\AuthenticationService"

/-- What every handler imports. -/
def handlerImports : List String :=
  ["Common\\Response\\ServerResponse", "Exception", "GuzzleHttp\\Psr7\\Response", "JsonException",
    "Psr\\Http\\Message\\ResponseInterface", "Psr\\Http\\Message\\ServerRequestInterface",
    "Spatial\\Psr7\\RequestHandler"]

/-- What every controller imports beside the requests that it sends. -/
def controllerImports : List String :=
  ["Common\\Libraries\\Controller", "Psr\\Http\\Message\\ResponseInterface",
    "Spatial\\Common\\BindSourceAttributes\\FromBody",
    "Spatial\\Common\\HttpAttributes\\HttpDelete", "Spatial\\Common\\HttpAttributes\\HttpGet",
    "Spatial\\Common\\HttpAttributes\\HttpPost", "Spatial\\Common\\HttpAttributes\\HttpPut",
    "Spatial\\Core\\Attributes\\ApiController", "Spatial\\Core\\Attributes\\Area",
    "Spatial\\Core\\Attributes\\Route"]

/-- What the listeners import. -/
def listenerImports : List String :=
  ["Spatial\\Events\\Attributes\\Listener"]

/-- The names of the requests that a controller sends. -/
def requestImports (shortName : String) : List String :=
  let logic := "Core\\Application\\Logics\\" ++ shortName ++ "\\" ++ shortName
  ["Create", "Update", "Delete"].map (fun verb => logic ++ "\\Commands\\" ++ verb ++ shortName) ++
    ["", "s"].map fun plural => logic ++ "\\Queries\\Get" ++ shortName ++ plural

/-- A request class and its handler below the directory of a module and an entity. -/
def provideRequest (kind folder : String) (template : Template) : Provider :=
  fun request => do
    let module ← paramText request "module"
    let entity ← paramText request "entity"
    let tracing ← isOn request "tracing"
    let logging ← isOn request "logging"
    let base := "src/core/Application/Logics/" ++ module ++ "/" ++ entity ++ "/" ++ folder
    let context := contextWith request
      [("namespace", .text ("Core\\Application\\Logics\\" ++ module ++ "\\" ++ entity ++ "\\" ++
          folder)),
        ("request_kind", .text kind),
        ("handler_imports", nameList (Template.importNames handlerImports
          [⟨tracing, [statusImport, tracerImport]⟩, ⟨logging, [loggerImport]⟩]))]
    let first ← artifact (base ++ "/" ++ request.name ++ ".php") kind template context
    let second ←
      artifact (base ++ "/" ++ request.name ++ "Handler.php") "handler" Template.handler context
    return [first, second]

def provideCommand : Provider :=
  provideRequest "command" "Commands" Template.command

def provideQuery : Provider :=
  provideRequest "query" "Queries" Template.query

def kebab (value : Value) : Except Mishap String :=
  (Template.Filter.kebabCase.apply value).mapError .filter

def provideController : Provider := fun request => do
  let shortName := Text.stripSuffix request.name "Controller"
  let module ← param request "module"
  let areaName ← kebab module
  let auth ← isOn request "auth"
  let logging ← isOn request "logging"
  let tracing ← isOn request "tracing"
  let context := contextWith request
    [("short_name", .text shortName), ("route_name", .text (Text.lowerCase shortName)),
      ("area_name", .text areaName),
      ("imports", nameList (Template.importNames (controllerImports ++ requestImports shortName)
        [⟨auth, [authorizeImport, authenticationImport]⟩, ⟨logging, [loggerImport]⟩,
          ⟨tracing, [tracerImport]⟩]))]
  let path := "src/presentation/" ++ module.display ++ "/Controllers/" ++ request.name ++ ".php"
  return [← artifact path "controller" Template.controller context]

def provideJob : Provider := fun request => do
  let context := contextWith request
    [("short_name", .text (Text.stripSuffix request.name "Job"))]
  return [← artifact ("src/core/Jobs/" ++ request.name ++ ".php") "job" Template.job context]

def provideEvent : Provider := fun request => do
  let module := Text.pascalCase (← paramText request "module")
  let context := contextWith request
    [("module", .text module), ("short_name", .text (Text.stripSuffix request.name "Event"))]
  let path := "src/core/Application/Events/" ++ module ++ "/" ++ request.name ++ ".php"
  return [← artifact path "event" Template.event context]

def provideListener : Provider := fun request => do
  let tracing ← isOn request "tracing"
  let logging ← isOn request "logging"
  let context := contextWith request
    [("short_name", .text (Text.stripSuffix request.name "Listener")),
      ("imports", nameList (Template.importNames listenerImports
        [⟨tracing, [tracerImport]⟩, ⟨logging, [loggerImport]⟩]))]
  let path := "src/core/Application/Listeners/" ++ request.name ++ ".php"
  return [← artifact path "listener" Template.listener context]

def provideEntity : Provider := fun request => do
  let schema := Text.pascalCase (← paramText request "schema")
  let context := contextWith request
    [("schema", .text schema), ("table_name", .text (Text.snakeCase request.name ++ "s"))]
  let path := "src/core/Domain/" ++ schema ++ "/" ++ request.name ++ ".php"
  return [← artifact path "entity" Template.entity context]

def provideSeeder : Provider := fun request => do
  let path := "src/core/Database/Seeders/" ++ request.name ++ ".php"
  return [← artifact path "seeder" Template.seeder request.context]

/-- A trait for the database of a domain, or a plain one if its type is another. -/
def provideTrait : Provider := fun request => do
  let domain := Text.stripSuffix request.name "Trait"
  let context := contextWith request
    [("type", .text (← paramText request "type")), ("domain", .text domain),
      ("em_var", .text ("em" ++ domain)), ("db_class", .text (domain ++ "DB"))]
  let path := "src/core/Application/Traits/" ++ request.name ++ ".php"
  return [← artifact path "trait" Template.trait context]

/-- One class in a folder of the infrastructure. -/
def provideInfrastructure (kind suffix : String) (template : Template) : Provider :=
  fun request => do
    let folder := Text.pascalCase (← paramText request "folder")
    let context := contextWith request
      [("folder", .text folder), ("short_name", .text (Text.stripSuffix request.name suffix))]
    let path := "src/infrastructure/" ++ folder ++ "/" ++ request.name ++ ".php"
    return [← artifact path kind template context]

def provideService : Provider :=
  provideInfrastructure "service" "Service" Template.service

def provideMiddleware : Provider :=
  provideInfrastructure "middleware" "Middleware" Template.middleware

end Scaffold.Generator
