import Scaffold.Generator.Catalogue
import Scaffold.Proofs.Artifact.Path
import Scaffold.Proofs.Disk.LastName
import Scaffold.Proofs.Generator.Prepare
import Scaffold.Proofs.Keyed
import Scaffold.Proofs.Template.Render

/-!
# Providers that find what they need

A provider drafts files from a request that was prepared for its generator, and then renders them and
checks their paths. All that it asks of the request is there, and so are the variables of its
templates. The only thing that can keep a file from being made is a path that goes up.
-/

set_option autoImplicit false

namespace Scaffold

namespace Generator

/-! ## Drafts -/

/-- A file whose content is yet to be rendered and whose path is yet to be checked. -/
structure Draft where
  path : String
  kind : String
  template : Template
  context : Fields

namespace Draft

def artifact (draft : Draft) : Except Mishap Artifact :=
  Generator.artifact draft.path draft.kind draft.template draft.context

/-- Whether the template of a draft finds its variables. -/
def Bound (draft : Draft) : Prop :=
  Template.Binds draft.context (Template.variableNames draft.template)
    (Template.imported draft.template)

/-- The components of the path of a draft. -/
def parts (draft : Draft) : List String :=
  Path.partsOf (draft.path.toList.map Artifact.slash)

/-- Whether the path of a draft goes up somewhere. -/
def GoesUp (draft : Draft) : Prop :=
  ".." ∈ draft.parts

/-- What is wrong with a path that goes up. -/
def problems (draft : Draft) : List Problem :=
  [⟨["path"],
    .rejected ("artifact path must be relative to the project root: " ++ Text.quote draft.path)⟩]

/-- Whether the path of a draft starts in the directory of all sources. -/
def IsBelowSource (draft : Draft) : Prop :=
  "src/".toList <+: draft.path.toList

variable {draft : Draft}

theorem parts?_eq (below : draft.IsBelowSource) :
    Artifact.parts? draft.path = if ".." ∈ draft.parts then none else some draft.parts := by
  obtain ⟨rest, path_eq⟩ := below
  have filled : draft.path ≠ "" := by
    rintro empty
    rw [empty] at path_eq
    cases path_eq
  have relative : Path.anchorOf (draft.path.toList.map Artifact.slash) = .relative := by
    rw [← path_eq]
    rfl
  unfold Artifact.parts? parts
  simp only [Path.ofString, String.toList_ofList, Path.isAbsolute, relative, filled, decide_false,
    bne_self_eq_false, Bool.false_or, List.contains_iff_mem]

/-- A draft whose template finds its variables fails only if its path goes up. -/
theorem artifact_cases (bound : draft.Bound) (below : draft.IsBelowSource) :
    (∃ content, draft.artifact = .ok ⟨draft.parts, content, draft.kind⟩ ∧ ¬draft.GoesUp) ∨
      draft.artifact = .error (.misshapen draft.problems) ∧ draft.GoesUp := by
  obtain ⟨content, rendered⟩ := Template.exists_render bound
  have artifact_eq : draft.artifact =
      (Artifact.make draft.path content draft.kind).mapError .misshapen := by
    unfold artifact Generator.artifact
    rw [rendered]
    rfl
  rw [artifact_eq, Artifact.make_eq, parts?_eq below]
  by_cases up : ".." ∈ draft.parts
  · rw [if_pos up]
    exact .inr ⟨rfl, up⟩
  · rw [if_neg up]
    exact .inl ⟨content, rfl, up⟩

/-- An artifact of a draft has the rendered template, the checked path and the kind. -/
theorem artifact_eq_ok_iff {artifact : Artifact} :
    draft.artifact = .ok artifact ↔
      draft.template.render draft.context = .ok artifact.content ∧
        Artifact.parts? draft.path = some artifact.parts ∧ artifact.kind = draft.kind := by
  have unfolded : draft.artifact = (draft.template.render draft.context).mapError .render >>=
      fun content => (Artifact.make draft.path content draft.kind).mapError .misshapen := rfl
  obtain ⟨parts, content, kind⟩ := artifact
  rw [unfolded]
  cases draft.template.render draft.context with
  | error fault => exact ⟨nofun, nofun⟩
  | ok rendered =>
    have made : ((Except.ok rendered : Except RenderFault String).mapError .render >>= fun content =>
        (Artifact.make draft.path content draft.kind).mapError Mishap.misshapen) =
      (Artifact.make draft.path rendered draft.kind).mapError .misshapen := rfl
    rw [made, Artifact.make_eq]
    cases Artifact.parts? draft.path with
    | none => exact ⟨nofun, nofun⟩
    | some checked =>
      simp only [Option.elim_some, Except.mapError, Except.ok.injEq, Artifact.mk.injEq,
        Option.some.injEq]
      exact ⟨fun ⟨parts_eq, content_eq, kind_eq⟩ => ⟨content_eq, parts_eq, kind_eq.symm⟩,
        fun ⟨content_eq, parts_eq, kind_eq⟩ => ⟨parts_eq, content_eq, kind_eq.symm⟩⟩

/-- An artifact that was made of a draft has its path, which does not go up. -/
theorem parts_of_artifact (below : draft.IsBelowSource) {artifact : Artifact}
    (made : draft.artifact = .ok artifact) :
    artifact.parts = draft.parts ∧ ".." ∉ artifact.parts := by
  obtain ⟨-, checked, -⟩ := artifact_eq_ok_iff.1 made
  rw [parts?_eq below] at checked
  split at checked
  · cases checked
  · next plain =>
    obtain parts_eq := Option.some.inj checked
    exact ⟨parts_eq.symm, parts_eq ▸ plain⟩

end Draft

/-! ## What a request supplies -/

/-- The names under which a generator finds values in the context of its requests. -/
def Spec.contextNames (spec : Spec) : List String :=
  ["name", "command_id", "flags", "project"] ++ spec.switches ++
    (spec.mustBeGiven ++ Keyed.keys spec.options)

/-- Whether a request gives all values that a generator can ask for, and a text for what must be
given. -/
structure Request.Supplies (request : Request) (spec : Spec) : Prop where
  given : ∀ name ∈ spec.mustBeGiven, ∃ text, request.params.get? name = some (.text text)
  chosen : ∀ name ∈ Keyed.keys spec.options, ∃ value, request.params.get? name = some value
  switched : ∀ name ∈ spec.switches, ∃ value, request.switches.get? name = some value

variable {spec : Spec} {request : Request}

theorem isSome_context {name : String} (supplies : request.Supplies spec)
    (known : name ∈ spec.contextNames) : (request.context.get? name).isSome := by
  unfold Spec.contextNames at known
  unfold Request.context Fields.overlay Fields.get?
  rw [Keyed.isSome_get?_overlay_iff, Keyed.isSome_get?_overlay_iff]
  simp only [List.mem_append] at known
  rcases known with (fixed | switch) | given | chosen
  · exact .inl fixed
  · obtain ⟨value, found⟩ := supplies.switched name switch
    exact .inr (.inl (Keyed.isSome_get?_iff.1 (Option.isSome_iff_exists.2 ⟨value, found⟩)))
  · obtain ⟨text, found⟩ := supplies.given name given
    exact .inr (.inr (Option.isSome_iff_exists.2 ⟨_, found⟩))
  · obtain ⟨value, found⟩ := supplies.chosen name chosen
    exact .inr (.inr (Option.isSome_iff_exists.2 ⟨_, found⟩))

/-- A template finds its variables if each is added or known for its generator, and if lists are added
for those that it writes as imports. -/
theorem binds_contextWith (template : Template) (added : Fields) (names : List String)
    (supplies : request.Supplies spec) (named : Keyed.keys added = names) (distinct : names.Nodup)
    (known : ∀ name ∈ Template.variableNames template, name ∈ names ++ spec.contextNames)
    (listed : ∀ name ∈ Template.imported template, ∃ list, (name, nameList list) ∈ added) :
    Template.Binds (contextWith request added) (Template.variableNames template)
      (Template.imported template) where
  bound name member := by
    unfold contextWith Fields.overlay Fields.get?
    rw [Keyed.isSome_get?_overlay_iff, named]
    rcases List.mem_append.1 (known name member) with among | among
    · exact .inl among
    · exact .inr (isSome_context supplies among)
  listed name member := by
    obtain ⟨list, among⟩ := listed name member
    exact ⟨nameList list, list.map .text,
      Keyed.get?_overlay_of_mem (named.symm ▸ distinct) among, rfl⟩

theorem param_eq_ok {name : String} {value : Value}
    (found : request.params.get? name = some value) : param request name = .ok value := by
  rw [param, Request.param, found]
  rfl

theorem paramText_eq_ok {name : String} {value : Value}
    (found : request.params.get? name = some value) :
    paramText request name = .ok value.display := by
  rw [paramText, param_eq_ok found]
  rfl

theorem isOn_eq_ok {name : String} {value : Value}
    (found : request.switches.get? name = some value) : isOn request name = .ok value.holds := by
  rw [isOn, Request.isOn, found]
  rfl

/-! ## What each provider drafts -/

/-- Files that a provider drafts for a request: it makes their artifacts in turn, and each of them
finds its variables. -/
structure Drafts (provide : Provider) (request : Request) (drafts : List Draft) : Prop where
  provide_eq : provide request = drafts.mapM Draft.artifact
  bound : ∀ draft ∈ drafts, draft.Bound
  below : ∀ draft ∈ drafts, draft.IsBelowSource

theorem below_append {start rest : String} (below : "src/".toList <+: start.toList) :
    "src/".toList <+: (start ++ rest).toList := by
  rw [String.toList_append]
  exact below.trans (List.prefix_append _ _)

/-- A provider drafts one file if it renders one, in a context that supplies its template. -/
theorem drafts_of_one {provide : Provider} {draft : Draft} {added : Fields} (template : Template)
    (names : List String) (supplies : request.Supplies spec) (template_eq : draft.template = template)
    (context_eq : draft.context = contextWith request added)
    (provide_eq : provide request = do return [← draft.artifact])
    (below : draft.IsBelowSource) (named : Keyed.keys added = names) (distinct : names.Nodup)
    (known : ∀ name ∈ Template.variableNames template, name ∈ names ++ spec.contextNames)
    (listed : ∀ name ∈ Template.imported template, ∃ list, (name, nameList list) ∈ added) :
    Drafts provide request [draft] where
  provide_eq := by
    rw [provide_eq, List.mapM_cons, List.mapM_nil]
    rfl
  bound := by
    refine List.forall_mem_singleton.2 ?_
    rw [Draft.Bound, template_eq, context_eq]
    exact binds_contextWith template added names supplies named distinct known listed
  below := List.forall_mem_singleton.2 below

def jobDraft (request : Request) : Draft where
  path := "src/core/Jobs/" ++ request.name ++ ".php"
  kind := "job"
  template := Template.job
  context := contextWith request [("short_name", .text (Text.stripSuffix request.name "Job"))]

@[simp] theorem path_jobDraft (request : Request) :
    (jobDraft request).path = "src/core/Jobs/" ++ request.name ++ ".php" := rfl

theorem drafts_job (supplies : request.Supplies jobSpec) :
    Drafts provideJob request [jobDraft request] :=
  drafts_of_one Template.job ["short_name"] supplies rfl rfl rfl
    (below_append (below_append (by decide))) rfl (by decide) (by decide) nofun

def seederDraft (request : Request) : Draft where
  path := "src/core/Database/Seeders/" ++ request.name ++ ".php"
  kind := "seeder"
  template := Template.seeder
  context := contextWith request []

@[simp] theorem path_seederDraft (request : Request) :
    (seederDraft request).path = "src/core/Database/Seeders/" ++ request.name ++ ".php" := rfl

theorem drafts_seeder (supplies : request.Supplies seederSpec) :
    Drafts provideSeeder request [seederDraft request] :=
  drafts_of_one Template.seeder [] supplies rfl rfl rfl (below_append (below_append (by decide))) rfl
    List.nodup_nil (by decide) nofun

def eventDraft (request : Request) (module : String) : Draft where
  path := "src/core/Application/Events/" ++ module ++ "/" ++ request.name ++ ".php"
  kind := "event"
  template := Template.event
  context := contextWith request
    [("module", .text module), ("short_name", .text (Text.stripSuffix request.name "Event"))]

@[simp] theorem path_eventDraft (request : Request) (module : String) :
    (eventDraft request module).path =
      "src/core/Application/Events/" ++ module ++ "/" ++ request.name ++ ".php" := rfl

theorem drafts_event (supplies : request.Supplies eventSpec) :
    Drafts provideEvent request [eventDraft request (nameOf request.params "module")] := by
  obtain ⟨module, chosen⟩ := supplies.chosen "module" (by decide)
  have module_eq : nameOf request.params "module" = Text.pascalCase module.display := by
    rw [nameOf, chosen, Option.getD_some]
  refine drafts_of_one Template.event ["module", "short_name"] supplies rfl rfl ?_
    (below_append (below_append (below_append (below_append (by decide))))) rfl (by decide)
    (by decide) nofun
  rw [provideEvent, paramText_eq_ok chosen, module_eq]
  rfl

def entityDraft (request : Request) (schema : String) : Draft where
  path := "src/core/Domain/" ++ schema ++ "/" ++ request.name ++ ".php"
  kind := "entity"
  template := Template.entity
  context := contextWith request
    [("schema", .text schema), ("table_name", .text (Text.snakeCase request.name ++ "s"))]

@[simp] theorem path_entityDraft (request : Request) (schema : String) :
    (entityDraft request schema).path =
      "src/core/Domain/" ++ schema ++ "/" ++ request.name ++ ".php" := rfl

theorem drafts_entity (supplies : request.Supplies entitySpec) :
    Drafts provideEntity request [entityDraft request (nameOf request.params "schema")] := by
  obtain ⟨schema, chosen⟩ := supplies.chosen "schema" (by decide)
  have schema_eq : nameOf request.params "schema" = Text.pascalCase schema.display := by
    rw [nameOf, chosen, Option.getD_some]
  refine drafts_of_one Template.entity ["schema", "table_name"] supplies rfl rfl ?_
    (below_append (below_append (below_append (below_append (by decide))))) rfl (by decide)
    (by decide) nofun
  rw [provideEntity, paramText_eq_ok chosen, schema_eq]
  rfl

def traitDraft (request : Request) (type : String) : Draft where
  path := "src/core/Application/Traits/" ++ request.name ++ ".php"
  kind := "trait"
  template := Template.trait
  context := contextWith request
    [("type", .text type), ("domain", .text (Text.stripSuffix request.name "Trait")),
      ("em_var", .text ("em" ++ Text.stripSuffix request.name "Trait")),
      ("db_class", .text (Text.stripSuffix request.name "Trait" ++ "DB"))]

@[simp] theorem path_traitDraft (request : Request) (type : String) :
    (traitDraft request type).path =
      "src/core/Application/Traits/" ++ request.name ++ ".php" := rfl

theorem exists_drafts_trait (supplies : request.Supplies traitSpec) :
    ∃ type, Drafts provideTrait request [traitDraft request type] := by
  obtain ⟨type, chosen⟩ := supplies.chosen "type" (by decide)
  refine ⟨type.display, drafts_of_one Template.trait ["type", "domain", "em_var", "db_class"] supplies
    rfl rfl ?_
    (below_append (below_append (by decide))) rfl (by decide) (by decide) nofun⟩
  rw [provideTrait, paramText_eq_ok chosen]
  rfl

def infrastructureDraft (kind suffix : String) (template : Template) (request : Request)
    (folder : String) : Draft where
  path := "src/infrastructure/" ++ folder ++ "/" ++ request.name ++ ".php"
  kind := kind
  template := template
  context := contextWith request
    [("folder", .text folder), ("short_name", .text (Text.stripSuffix request.name suffix))]

@[simp] theorem path_infrastructureDraft (kind suffix : String) (template : Template)
    (request : Request) (folder : String) :
    (infrastructureDraft kind suffix template request folder).path =
      "src/infrastructure/" ++ folder ++ "/" ++ request.name ++ ".php" := rfl

theorem drafts_infrastructure {kind suffix : String} {template : Template}
    (supplies : request.Supplies spec) (hasFolder : "folder" ∈ Keyed.keys spec.options)
    (known : ∀ name ∈ Template.variableNames template,
      name ∈ ["folder", "short_name"] ++ spec.contextNames)
    (noImports : Template.imported template = []) :
    Drafts (provideInfrastructure kind suffix template) request
      [infrastructureDraft kind suffix template request (nameOf request.params "folder")] := by
  obtain ⟨folder, chosen⟩ := supplies.chosen "folder" hasFolder
  have folder_eq : nameOf request.params "folder" = Text.pascalCase folder.display := by
    rw [nameOf, chosen, Option.getD_some]
  refine drafts_of_one template ["folder", "short_name"] supplies rfl rfl ?_
    (below_append (below_append (below_append (below_append (by decide))))) rfl (by decide) known
    (by simp [noImports])
  rw [provideInfrastructure, paramText_eq_ok chosen, folder_eq]
  rfl

def listenerDraft (request : Request) (tracing logging : Bool) : Draft where
  path := "src/core/Application/Listeners/" ++ request.name ++ ".php"
  kind := "listener"
  template := Template.listener
  context := contextWith request
    [("short_name", .text (Text.stripSuffix request.name "Listener")),
      ("imports", nameList (Template.importNames listenerImports
        [⟨tracing, [tracerImport]⟩, ⟨logging, [loggerImport]⟩]))]

@[simp] theorem path_listenerDraft (request : Request) (tracing logging : Bool) :
    (listenerDraft request tracing logging).path =
      "src/core/Application/Listeners/" ++ request.name ++ ".php" := rfl

theorem exists_drafts_listener (supplies : request.Supplies listenerSpec) :
    ∃ tracing logging, Drafts provideListener request [listenerDraft request tracing logging] := by
  obtain ⟨tracing, traced⟩ := supplies.switched "tracing" (by decide)
  obtain ⟨logging, logged⟩ := supplies.switched "logging" (by decide)
  refine ⟨tracing.holds, logging.holds, drafts_of_one Template.listener ["short_name", "imports"]
    supplies rfl rfl ?_
    (below_append (below_append (by decide))) rfl (by decide) (by decide) ?_⟩
  · rw [provideListener, isOn_eq_ok traced, isOn_eq_ok logged]
    rfl
  · have importing : Template.imported Template.listener = ["imports"] := by decide
    rw [importing, List.forall_mem_singleton]
    exact ⟨_, List.mem_cons_of_mem _ (List.mem_singleton_self _)⟩

def controllerDraft (request : Request) (module : String) (auth logging tracing : Bool) :
    Draft where
  path := "src/presentation/" ++ module ++ "/Controllers/" ++ request.name ++ ".php"
  kind := "controller"
  template := Template.controller
  context := contextWith request
    [("short_name", .text (Text.stripSuffix request.name "Controller")),
      ("route_name", .text (Text.lowerCase (Text.stripSuffix request.name "Controller"))),
      ("area_name", .text (Text.kebabCase module)),
      ("imports", nameList (Template.importNames
        (controllerImports ++ requestImports (Text.stripSuffix request.name "Controller"))
        [⟨auth, [authorizeImport, authenticationImport]⟩, ⟨logging, [loggerImport]⟩,
          ⟨tracing, [tracerImport]⟩]))]

@[simp] theorem path_controllerDraft (request : Request) (module : String) (auth logging tracing : Bool) :
    (controllerDraft request module auth logging tracing).path =
      "src/presentation/" ++ module ++ "/Controllers/" ++ request.name ++ ".php" := rfl

/-- A controller is drafted below the directory of its module. -/
theorem exists_drafts_controller {module : String} (supplies : request.Supplies controllerSpec)
    (given : request.params.get? "module" = some (.text module)) :
    ∃ auth logging tracing,
      Drafts provideController request [controllerDraft request module auth logging tracing] := by
  obtain ⟨auth, authorized⟩ := supplies.switched "auth" (by decide)
  obtain ⟨logging, logged⟩ := supplies.switched "logging" (by decide)
  obtain ⟨tracing, traced⟩ := supplies.switched "tracing" (by decide)
  refine ⟨auth.holds, logging.holds, tracing.holds, drafts_of_one Template.controller
    ["short_name", "route_name", "area_name", "imports"] supplies rfl rfl ?_
    (below_append (below_append (below_append (below_append (by decide))))) rfl (by decide)
    (by decide) ?_⟩
  · rw [provideController, param_eq_ok given, isOn_eq_ok authorized, isOn_eq_ok logged,
      isOn_eq_ok traced]
    rfl
  · have importing : Template.imported Template.controller = ["imports"] := by decide
    rw [importing, List.forall_mem_singleton]
    exact ⟨_, List.mem_cons_of_mem _ <| List.mem_cons_of_mem _ <| List.mem_cons_of_mem _ <|
      List.mem_singleton_self _⟩

/-- The variables of a request class and of its handler. -/
def requestContext (kind folder : String) (request : Request) (module entity : String)
    (tracing logging : Bool) : Fields :=
  contextWith request
    [("namespace", .text ("Core\\Application\\Logics\\" ++ module ++ "\\" ++ entity ++ "\\" ++
        folder)),
      ("request_kind", .text kind),
      ("handler_imports", nameList (Template.importNames handlerImports
        [⟨tracing, [statusImport, tracerImport]⟩, ⟨logging, [loggerImport]⟩]))]

def requestDraft (kind folder : String) (template : Template) (request : Request)
    (module entity : String) (tracing logging : Bool) : Draft where
  path := "src/core/Application/Logics/" ++ module ++ "/" ++ entity ++ "/" ++ folder ++ "/" ++
    request.name ++ ".php"
  kind := kind
  template := template
  context := requestContext kind folder request module entity tracing logging

def handlerDraft (kind folder : String) (request : Request) (module entity : String)
    (tracing logging : Bool) : Draft where
  path := "src/core/Application/Logics/" ++ module ++ "/" ++ entity ++ "/" ++ folder ++ "/" ++
    request.name ++ "Handler.php"
  kind := "handler"
  template := Template.handler
  context := requestContext kind folder request module entity tracing logging

@[simp] theorem path_requestDraft (kind folder : String) (template : Template) (request : Request)
    (module entity : String) (tracing logging : Bool) :
    (requestDraft kind folder template request module entity tracing logging).path =
      "src/core/Application/Logics/" ++ module ++ "/" ++ entity ++ "/" ++ folder ++ "/" ++
        request.name ++ ".php" := rfl

@[simp] theorem path_handlerDraft (kind folder : String) (request : Request)
    (module entity : String) (tracing logging : Bool) :
    (handlerDraft kind folder request module entity tracing logging).path =
      "src/core/Application/Logics/" ++ module ++ "/" ++ entity ++ "/" ++ folder ++ "/" ++
        request.name ++ "Handler.php" := rfl

theorem exists_drafts_request {kind folder : String} {template : Template} {module entity : String}
    (supplies : request.Supplies spec)
    (moduleGiven : request.params.get? "module" = some (.text module))
    (entityGiven : request.params.get? "entity" = some (.text entity))
    (switched : ∀ name ∈ ["tracing", "logging"], name ∈ spec.switches)
    (known : ∀ name ∈ Template.variableNames template ++ Template.variableNames Template.handler,
      name ∈ ["namespace", "request_kind", "handler_imports"] ++ spec.contextNames)
    (noImports : Template.imported template = []) :
    ∃ tracing logging, Drafts (provideRequest kind folder template) request
      [requestDraft kind folder template request module entity tracing logging,
        handlerDraft kind folder request module entity tracing logging] := by
  obtain ⟨tracing, traced⟩ := supplies.switched "tracing" (switched _ (by decide))
  obtain ⟨logging, logged⟩ := supplies.switched "logging" (switched _ (by decide))
  obtain ⟨knownFirst, knownSecond⟩ := List.forall_mem_append.1 known
  have binds := fun template => binds_contextWith template
    [("namespace", .text ("Core\\Application\\Logics\\" ++ module ++ "\\" ++ entity ++ "\\" ++
        folder)),
      ("request_kind", .text kind),
      ("handler_imports", nameList (Template.importNames handlerImports
        [⟨tracing.holds, [statusImport, tracerImport]⟩, ⟨logging.holds, [loggerImport]⟩]))]
    ["namespace", "request_kind", "handler_imports"] supplies rfl (by decide)
  have importing : Template.imported Template.handler = ["handler_imports"] := by decide
  have first := binds template knownFirst (by simp [noImports])
  have second := binds Template.handler knownSecond (by
    rw [importing, List.forall_mem_singleton]
    exact ⟨_, List.mem_cons_of_mem _ (List.mem_cons_of_mem _ (List.mem_singleton_self _))⟩)
  have below (name : String) : "src/".toList <+: ("src/core/Application/Logics/" ++ module ++ "/" ++
      entity ++ "/" ++ folder ++ "/" ++ request.name ++ name).toList :=
    below_append <| below_append <| below_append <| below_append <| below_append <| below_append <|
      below_append <| below_append (by decide)
  refine ⟨tracing.holds, logging.holds, ?_,
    List.forall_mem_cons.2 ⟨first, List.forall_mem_singleton.2 second⟩,
    List.forall_mem_cons.2 ⟨below _, List.forall_mem_singleton.2 (below _)⟩⟩
  rw [provideRequest, paramText_eq_ok moduleGiven, paramText_eq_ok entityGiven, isOn_eq_ok traced,
    isOn_eq_ok logged]
  simp only [List.mapM_cons, List.mapM_nil, pure_bind, bind_assoc]
  rfl

theorem exists_drafts_command {module entity : String} (supplies : request.Supplies commandSpec)
    (moduleGiven : request.params.get? "module" = some (.text module))
    (entityGiven : request.params.get? "entity" = some (.text entity)) :
    ∃ tracing logging, Drafts provideCommand request
      [requestDraft "command" "Commands" Template.command request module entity tracing logging,
        handlerDraft "command" "Commands" request module entity tracing logging] :=
  exists_drafts_request supplies moduleGiven entityGiven (by decide) (by decide) rfl

theorem exists_drafts_query {module entity : String} (supplies : request.Supplies querySpec)
    (moduleGiven : request.params.get? "module" = some (.text module))
    (entityGiven : request.params.get? "entity" = some (.text entity)) :
    ∃ tracing logging, Drafts provideQuery request
      [requestDraft "query" "Queries" Template.query request module entity tracing logging,
        handlerDraft "query" "Queries" request module entity tracing logging] :=
  exists_drafts_request supplies moduleGiven entityGiven (by decide) (by decide) rfl

/-- The kinds of the artifacts of a generator: a class and, for the requests of an entity, its
handler. -/
def Spec.artifactKinds (spec : Spec) : List String :=
  match spec.need with
  | .moduleAndEntity => [spec.kind, "handler"]
  | _ => [spec.kind]

/-- Every generator finds in a request that was prepared for it all that it asks for, and drafts one
file of each of its kinds. -/
theorem exists_drafts (known : spec ∈ catalogue) (supplies : request.Supplies spec) :
    ∃ drafts, Drafts spec.provide request drafts ∧ drafts.map Draft.kind = spec.artifactKinds := by
  simp only [catalogue, List.mem_cons, List.not_mem_nil, or_false] at known
  rcases known with rfl | rfl | rfl | rfl | rfl | rfl | rfl | rfl | rfl | rfl | rfl
  · obtain ⟨module, moduleGiven⟩ := supplies.given "module" (by decide)
    obtain ⟨entity, entityGiven⟩ := supplies.given "entity" (by decide)
    obtain ⟨_, _, drafted⟩ := exists_drafts_command supplies moduleGiven entityGiven
    exact ⟨_, drafted, rfl⟩
  · obtain ⟨module, moduleGiven⟩ := supplies.given "module" (by decide)
    obtain ⟨entity, entityGiven⟩ := supplies.given "entity" (by decide)
    obtain ⟨_, _, drafted⟩ := exists_drafts_query supplies moduleGiven entityGiven
    exact ⟨_, drafted, rfl⟩
  · obtain ⟨module, given⟩ := supplies.given "module" (by decide)
    obtain ⟨_, _, _, drafted⟩ := exists_drafts_controller supplies given
    exact ⟨_, drafted, rfl⟩
  · exact ⟨_, drafts_job supplies, rfl⟩
  · exact ⟨_, drafts_event supplies, rfl⟩
  · obtain ⟨_, _, drafted⟩ := exists_drafts_listener supplies
    exact ⟨_, drafted, rfl⟩
  · exact ⟨_, drafts_infrastructure supplies (by decide) (by decide) rfl, rfl⟩
  · exact ⟨_, drafts_infrastructure supplies (by decide) (by decide) rfl, rfl⟩
  · exact ⟨_, drafts_entity supplies, rfl⟩
  · exact ⟨_, drafts_seeder supplies, rfl⟩
  · obtain ⟨_, drafted⟩ := exists_drafts_trait supplies
    exact ⟨_, drafted, rfl⟩

/-! ## What a prepared request supplies and what comes of it -/

theorem nodup_names (known : spec ∈ catalogue) :
    (spec.mustBeGiven ++ Keyed.keys spec.options).Nodup := by
  have distinct : ∀ spec ∈ catalogue, (spec.mustBeGiven ++ Keyed.keys spec.options).Nodup := by
    decide
  exact distinct spec known

/-- Parameters of distinct names are all in a prepared request. -/
theorem get?_params_of_mem (known : spec ∈ catalogue) {invocation : Invocation} {settings : Settings}
    {name : String} {value : Value}
    (member : (name, value) ∈ namedParams invocation.options spec.mustBeGiven ++
      spec.options.map fun option => (option.1, Settings.optionValue
        (settings.valuesFor spec.command) invocation.options option.1 option.2)) :
    (requestOf spec invocation settings).params.get? name = some value := by
  refine Keyed.get?_overlay_of_mem ?_ member
  have keys_eq : Keyed.keys (namedParams invocation.options spec.mustBeGiven ++
        spec.options.map fun option => (option.1, Settings.optionValue
          (settings.valuesFor spec.command) invocation.options option.1 option.2)) =
      spec.mustBeGiven ++ Keyed.keys spec.options := by
    simp [Keyed.keys, namedParams, Function.comp_def]
  rw [keys_eq]
  exact nodup_names known

/-- What must be given is in a prepared request as what its words join to. -/
theorem get?_params_requestOf (known : spec ∈ catalogue) (invocation : Invocation)
    (settings : Settings) {name : String} (member : name ∈ spec.mustBeGiven) :
    (requestOf spec invocation settings).params.get? name =
      some (.text (nameOf invocation.options name)) :=
  get?_params_of_mem known (List.mem_append_left _ (List.mem_map.2 ⟨name, member, rfl⟩))

/-- An option that takes a value is in a prepared request with the value in force. -/
theorem get?_params_of_mem_options (known : spec ∈ catalogue) (invocation : Invocation)
    (settings : Settings) {option : String × Value} (member : option ∈ spec.options) :
    (requestOf spec invocation settings).params.get? option.1 =
      some (Settings.optionValue (settings.valuesFor spec.command) invocation.options option.1
        option.2) :=
  get?_params_of_mem known (List.mem_append_right _ (List.mem_map.2 ⟨option, member, rfl⟩))

theorem supplies_requestOf (known : spec ∈ catalogue) (invocation : Invocation)
    (settings : Settings) : (requestOf spec invocation settings).Supplies spec where
  given name member := ⟨_, get?_params_requestOf known invocation settings member⟩
  chosen name member := by
    refine Option.isSome_iff_exists.1 (Keyed.isSome_get?_ofList_iff.2 ?_)
    simp only [Keyed.keys, List.map_append, List.map_map, Function.comp_def]
    exact List.mem_append_right _ member
  switched name member := by
    refine Option.isSome_iff_exists.1 (Keyed.isSome_get?_iff.2 ?_)
    have switched : name ∈ Keyed.keys (Settings.switchValues (settings.valuesFor spec.command)
        invocation.options spec.switches) := by
      refine Keyed.isSome_get?_iff.1 (Keyed.isSome_get?_ofList_iff.2 ?_)
      simpa [Keyed.keys] using member
    simpa [Keyed.keys, requestOf] using switched

/-- How a provider ends for a request that was prepared: with an artifact for each draft, or at the
first draft whose path goes up. -/
inductive Provides (provide : Provider) (request : Request) :
    Except Mishap (List Artifact) → Prop where
  | made {drafts : List Draft} {artifacts : List Artifact} :
      Drafts provide request drafts → drafts.mapM Draft.artifact = .ok artifacts →
      (∀ draft ∈ drafts, ¬draft.GoesUp) → Provides provide request (.ok artifacts)
  | goesUp {before after : List Draft} {draft : Draft} :
      Drafts provide request (before ++ draft :: after) →
      (∀ earlier ∈ before, ¬earlier.GoesUp) → draft.GoesUp →
      Provides provide request (.error (.misshapen draft.problems))

theorem Draft.mapM_artifact_cases {drafts : List Draft} (bound : ∀ draft ∈ drafts, draft.Bound)
    (below : ∀ draft ∈ drafts, draft.IsBelowSource) :
    (∃ artifacts, drafts.mapM Draft.artifact = .ok artifacts ∧ ∀ draft ∈ drafts, ¬draft.GoesUp) ∨
    ∃ before draft after, drafts = before ++ draft :: after ∧
      (∀ earlier ∈ before, ¬earlier.GoesUp) ∧ draft.GoesUp ∧
      drafts.mapM Draft.artifact = .error (.misshapen draft.problems) := by
  induction drafts with
  | nil => exact .inl ⟨[], rfl, nofun⟩
  | cons draft drafts ih =>
    obtain ⟨boundFirst, boundRest⟩ := List.forall_mem_cons.1 bound
    obtain ⟨belowFirst, belowRest⟩ := List.forall_mem_cons.1 below
    rw [List.mapM_cons]
    rcases draft.artifact_cases boundFirst belowFirst with ⟨content, made, plain⟩ | ⟨failed, up⟩
    · rw [made]
      rcases ih boundRest belowRest with
        ⟨artifacts, madeRest, plainRest⟩ | ⟨before, other, after, rfl, plainBefore, up, failed⟩
      · refine .inl ⟨⟨draft.parts, content, draft.kind⟩ :: artifacts, ?_,
          List.forall_mem_cons.2 ⟨plain, plainRest⟩⟩
        rw [madeRest]
        rfl
      · refine .inr ⟨draft :: before, other, after, rfl,
          List.forall_mem_cons.2 ⟨plain, plainBefore⟩, up, ?_⟩
        rw [failed]
        rfl
    · refine .inr ⟨[], draft, drafts, rfl, nofun, up, ?_⟩
      rw [failed]
      rfl

theorem provides (known : spec ∈ catalogue) (supplies : request.Supplies spec) :
    Provides spec.provide request (spec.provide request) := by
  obtain ⟨drafts, drafted, -⟩ := exists_drafts known supplies
  rcases Draft.mapM_artifact_cases drafted.bound drafted.below with
    ⟨artifacts, made, plain⟩ | ⟨before, draft, after, rfl, plain, up, failed⟩
  · rw [drafted.provide_eq, made]
    exact .made drafted made plain
  · rw [drafted.provide_eq, failed]
    exact .goesUp drafted plain up

/-- Artifacts that are made of drafts in turn are each made of its own. -/
theorem Draft.forall₂_of_mapM {drafts : List Draft} {artifacts : List Artifact}
    (made : drafts.mapM Draft.artifact = .ok artifacts) :
    List.Forall₂ (fun draft artifact => draft.artifact = .ok artifact) drafts artifacts := by
  induction drafts generalizing artifacts with
  | nil =>
    rw [List.mapM_nil] at made
    cases made
    exact .nil
  | cons draft drafts ih =>
    rw [List.mapM_cons] at made
    cases first : draft.artifact with
    | error mishap =>
      rw [first] at made
      cases made
    | ok held =>
      cases rest : drafts.mapM Draft.artifact with
      | error mishap =>
        rw [first, rest] at made
        cases made
      | ok others =>
        rw [first, rest] at made
        cases made
        exact .cons first (ih rest)

theorem Draft.exists_of_mem_mapM {drafts : List Draft} {artifacts : List Artifact}
    (made : drafts.mapM Draft.artifact = .ok artifacts) {artifact : Artifact}
    (member : artifact ∈ artifacts) : ∃ draft ∈ drafts, draft.artifact = .ok artifact := by
  have pairs := Draft.forall₂_of_mapM made
  clear made
  induction pairs with
  | nil => cases member
  | cons first _ ih =>
    rcases List.mem_cons.1 member with rfl | below
    · exact ⟨_, List.mem_cons_self, first⟩
    · obtain ⟨draft, among, held⟩ := ih below
      exact ⟨draft, List.mem_cons_of_mem _ among, held⟩

/-- The artifacts of drafts have their kinds. -/
theorem Draft.map_kind_eq {drafts : List Draft} {artifacts : List Artifact}
    (made : drafts.mapM Draft.artifact = .ok artifacts) :
    artifacts.map Artifact.kind = drafts.map Draft.kind := by
  have pairs := Draft.forall₂_of_mapM made
  clear made
  induction pairs with
  | nil => rfl
  | cons first _ ih =>
    obtain ⟨-, -, kind_eq⟩ := artifact_eq_ok_iff.1 first
    rw [List.map_cons, List.map_cons, kind_eq, ih]

/-- A generator that provides for a request makes an artifact of each of its kinds. -/
theorem map_kind_of_provide (known : spec ∈ catalogue) (supplies : request.Supplies spec)
    {artifacts : List Artifact} (provided : spec.provide request = .ok artifacts) :
    artifacts.map Artifact.kind = spec.artifactKinds := by
  obtain ⟨drafts, drafted, kinds_eq⟩ := exists_drafts known supplies
  rw [drafted.provide_eq] at provided
  rw [Draft.map_kind_eq provided, kinds_eq]

/-- Every request that is provided for has artifacts. -/
theorem artifacts_ne_nil (known : spec ∈ catalogue) (supplies : request.Supplies spec)
    {artifacts : List Artifact} (provided : spec.provide request = .ok artifacts) :
    artifacts ≠ [] := by
  rintro rfl
  have kinds_eq := map_kind_of_provide known supplies provided
  unfold Spec.artifactKinds at kinds_eq
  split at kinds_eq <;> cases kinds_eq

/-- The paths of the artifacts that a generator makes never go up. -/
theorem plain_of_provide (known : spec ∈ catalogue) (supplies : request.Supplies spec)
    {artifacts : List Artifact} (provided : spec.provide request = .ok artifacts) :
    ∀ artifact ∈ artifacts, ".." ∉ artifact.parts := by
  intro artifact member
  obtain ⟨drafts, drafted, -⟩ := exists_drafts known supplies
  rw [drafted.provide_eq] at provided
  obtain ⟨draft, among, made⟩ := Draft.exists_of_mem_mapM provided member
  exact (Draft.parts_of_artifact (drafted.below draft among) made).2

/-- The path of a draft starts with the name of the directory of all sources. -/
theorem Draft.exists_parts_eq {draft : Draft} (below : draft.IsBelowSource) :
    ∃ rest, draft.parts = "src" :: rest := by
  obtain ⟨rest, path_eq⟩ := below
  have split : draft.path.toList.map Artifact.slash =
      "src".toList ++ '/' :: rest.map Artifact.slash := by
    rw [← path_eq, List.map_append]
    rfl
  have source_eq : Path.partsOf "src".toList = ["src"] := by decide
  rw [parts, split, Path.partsOf_append_cons_slash, source_eq]
  exact ⟨_, rfl⟩

/-- The artifacts that a generator makes are in the directory of all sources. -/
theorem exists_parts_of_provide (known : spec ∈ catalogue) (supplies : request.Supplies spec)
    {artifacts : List Artifact} (provided : spec.provide request = .ok artifacts) :
    ∀ artifact ∈ artifacts, ∃ rest, artifact.parts = "src" :: rest := by
  intro artifact member
  obtain ⟨drafts, drafted, -⟩ := exists_drafts known supplies
  rw [drafted.provide_eq] at provided
  obtain ⟨draft, among, made⟩ := Draft.exists_of_mem_mapM provided member
  rw [(Draft.parts_of_artifact (drafted.below draft among) made).1]
  exact Draft.exists_parts_eq (drafted.below draft among)

/-! ## Files of controllers and composition files -/

theorem exists_toList_withSuffix (name suffix : String) :
    ∃ start, (Text.withSuffix name suffix).toList = start ++ suffix.toList := by
  unfold Text.withSuffix Text.hasSuffix
  split
  · next ends =>
    obtain ⟨start, whole⟩ := List.isSuffixOf_iff_suffix.1 ends
    exact ⟨start, whole.symm⟩
  · exact ⟨name.toList, String.toList_append⟩

/-- The name of a request ends in the suffix of its generator. -/
theorem exists_name_requestOf (spec : Spec) (invocation : Invocation) (settings : Settings) :
    ∃ start, (requestOf spec invocation settings).name.toList = start ++ spec.suffix.toList :=
  exists_toList_withSuffix (baseName invocation) spec.suffix

theorem controllerSpec_mem : controllerSpec ∈ catalogue := by
  simp [catalogue]

/-- A prepared request for a controller names its module. -/
theorem module_requestOf (invocation : Invocation) (settings : Settings) :
    (requestOf controllerSpec invocation settings).params.get? "module" =
      some (.text (nameOf invocation.options "module")) :=
  get?_params_requestOf controllerSpec_mem invocation settings (by decide)

/-- What the path of a file of a controller ends in. -/
def controllerEnding : List Char := "Controller.php".toList

theorem endsIn_controllerFile {invocation : Invocation} {settings : Settings}
    {artifacts : List Artifact}
    (provided : provideController (requestOf controllerSpec invocation settings) = .ok artifacts)
    {artifact : Artifact} (member : artifact ∈ artifacts) :
    EndsIn artifact.parts controllerEnding := by
  obtain ⟨_, _, _, drafted⟩ := exists_drafts_controller
    (supplies_requestOf controllerSpec_mem invocation settings)
    (module_requestOf invocation settings)
  rw [drafted.provide_eq] at provided
  obtain ⟨draft, among, made⟩ := Draft.exists_of_mem_mapM provided member
  obtain ⟨parts_eq, -⟩ :=
    Draft.parts_of_artifact (drafted.below draft among) made
  obtain rfl := List.mem_singleton.1 among
  obtain ⟨start, named⟩ := exists_name_requestOf controllerSpec invocation settings
  have ending_eq : controllerSpec.suffix.toList ++ ".php".toList = controllerEnding := by decide
  have unslashed : controllerEnding.map Artifact.slash = controllerEnding := by decide
  rw [parts_eq, Draft.parts, path_controllerDraft, String.toList_append, String.toList_append, named, List.append_assoc,
    List.append_assoc, ending_eq, ← List.append_assoc, List.map_append, unslashed]
  exact Path.endsIn_partsOf (by decide) (by decide) _

end Generator

end Scaffold
