import Scaffold.Proofs.Generator.Provide
import Scaffold.Proofs.Template.Declaration
import Scaffold.Proofs.Text.WordCase

/-!
# Where classes belong

Each generator has a frame: the directory and the namespace in which its classes belong, and the fixed
names around those that the user gives. The path of a draft and the namespace that is declared in it
are built apart, the one by the provider and the other by the template, and both follow the frame.
-/

set_option autoImplicit false

namespace Scaffold.Generator

open Template

/-! ## Sites and frames -/

/-- Names one after the other, each behind a separator. -/
def joined (separator : Char) (names : List String) : List Char :=
  names.flatMap fun name => separator :: name.toList

theorem joined_append (separator : Char) (names others : List String) :
    joined separator (names ++ others) = joined separator names ++ joined separator others :=
  List.flatMap_append

theorem joined_singleton (separator : Char) (name : String) :
    joined separator [name] = separator :: name.toList :=
  List.flatMap_singleton _ _

/-- The place of a class: a directory and the namespace that stands for it, the names of those below
both, and the name of the class. -/
structure Site where
  directory : String
  top : String
  names : List String
  className : String

namespace Site

/-- The path of the file of a class. -/
def path (site : Site) : List Char :=
  site.directory.toList ++ joined '/' (site.names ++ [site.className]) ++ ".php".toList

/-- The namespace of a class. -/
def space (site : Site) : List Char :=
  site.top.toList ++ joined '\\' site.names

end Site

/-- What is fixed of the places of the classes of a generator: what comes before the names that the user
gives, and what after them, and what the names of the classes add to that of the request. -/
structure Frame where
  directory : String
  top : String
  before : List String
  after : List String
  suffixes : List String
  deriving DecidableEq

def Frame.site (frame : Frame) (names : List String) (className : String) : Site :=
  ⟨frame.directory, frame.top, frame.before ++ names ++ frame.after, className⟩

/-- The frames of the generators by their commands. -/
def frames : Keyed String Frame :=
  [("make:command", ⟨"src/core", "Core", ["Application", "Logics"], ["Commands"],
      ["", "Handler"]⟩),
    ("make:query", ⟨"src/core", "Core", ["Application", "Logics"], ["Queries"],
      ["", "Handler"]⟩),
    ("make:controller", ⟨"src/presentation", "Presentation", [], ["Controllers"], [""]⟩),
    ("make:job", ⟨"src/core", "Core", ["Jobs"], [], [""]⟩),
    ("make:event", ⟨"src/core", "Core", ["Application", "Events"], [], [""]⟩),
    ("make:listener", ⟨"src/core", "Core", ["Application", "Listeners"], [], [""]⟩),
    ("make:service", ⟨"src/infrastructure", "Infrastructure", [], [], [""]⟩),
    ("make:middleware", ⟨"src/infrastructure", "Infrastructure", [], [], [""]⟩),
    ("make:entity", ⟨"src/core", "Core", ["Domain"], [], [""]⟩),
    ("make:seeder", ⟨"src/core", "Core", ["Database", "Seeders"], [], [""]⟩),
    ("make:trait", ⟨"src/core", "Core", ["Application", "Traits"], [], [""]⟩)]

def frameOf (spec : Spec) : Frame :=
  (Keyed.get? spec.command frames).getD ⟨"", "", [], [], []⟩

/-- The options that name a place. -/
def placeOptions : List String :=
  ["module", "folder", "schema"]

/-- The names in the place of a class that are given for a request: those that its generator needs, and
what the words of its options join to. -/
def placeNames (spec : Spec) (request : Request) : List String :=
  (spec.need.options.map fun name => ((request.params.get? name).getD .null).display) ++
    ((Keyed.keys spec.options).filter (placeOptions.contains ·)).map (nameOf request.params)

variable {spec : Spec} {request : Request}

/-! ## Variables of a request -/

theorem get?_contextWith_of_mem {added : Fields} {name : String} {value : Value}
    (distinct : (Keyed.keys added).Nodup) (member : (name, value) ∈ added) :
    (contextWith request added).get? name = some value :=
  Keyed.get?_overlay_of_mem distinct member

theorem get?_contextWith_name {added : Fields} (absent : "name" ∉ Keyed.keys added) :
    (contextWith request added).get? "name" = some (.text request.name) := by
  have looked : (contextWith request added).get? "name" = request.context.get? "name" :=
    Keyed.get?_overlay_of_not_mem absent
  rw [looked]
  exact Keyed.get?_overlay_of_mem (by simp [Keyed.keys]) List.mem_cons_self

/-- A parameter of a request is a variable unless another value has its name. -/
theorem get?_contextWith_param {added : Fields} {name : String} (absent : name ∉ Keyed.keys added)
    (free : name ∉ ["name", "command_id", "flags", "project"])
    (unswitched : name ∉ Keyed.keys request.switches) :
    (contextWith request added).get? name = request.params.get? name := by
  have looked : (contextWith request added).get? name = request.context.get? name :=
    Keyed.get?_overlay_of_not_mem absent
  have below : request.context.get? name = (request.params.overlay request.switches).get? name :=
    Keyed.get?_overlay_of_not_mem free
  rw [looked, below]
  exact Keyed.get?_overlay_of_not_mem unswitched

theorem shown_of_get? {context : Fields} {name text : String}
    (found : context.get? name = some (.text text)) : shown context name = text := by
  rw [shown, found]
  rfl

theorem exists_whole {context : Fields} {name text : String}
    (found : context.get? name = some (.text text)) (whole : '\n' ∉ text.toList) :
    ∃ value, context.get? name = some value ∧ '\n' ∉ value.display.toList :=
  ⟨.text text, found, whole⟩

theorem exists_listed {context : Fields} {name : String} {base : List String}
    {groups : List ImportGroup}
    (found : context.get? name = some (nameList (importNames base groups))) (filled : base ≠ [])
    (always : ∀ listed ∈ base, '\n' ∉ listed.toList)
    (grouped : ∀ group ∈ groups, ∀ listed ∈ group.names, '\n' ∉ listed.toList) :
    ∃ names, context.get? name = some (.list (names.map .text)) ∧ names ≠ [] ∧
      ∀ listed ∈ names, '\n' ∉ listed.toList :=
  ⟨_, found, importNames_ne_nil filled groups, forall_mem_importNames always grouped⟩

/-- Whether the name of a request, and what must be given for its generator, are joined words, and no
switch has the name of a parameter that must be given. -/
structure Request.IsJoined (request : Request) (spec : Spec) : Prop where
  named : ∀ character ∈ request.name.toList, Text.isBlank character = false
  given : ∀ name ∈ spec.mustBeGiven,
    ∃ text, request.params.get? name = some (.text (Text.pascalCase text))
  unswitched : ∀ name ∈ spec.mustBeGiven, name ∉ Keyed.keys request.switches

theorem mem_switches_of_requestOf {invocation : Invocation} {settings : Settings} {name : String}
    (switched : name ∈ Keyed.keys (requestOf spec invocation settings).switches) :
    name ∈ spec.switches := by
  have keys_eq : Keyed.keys (requestOf spec invocation settings).switches =
      Keyed.keys (Settings.switchValues (settings.valuesFor spec.command) invocation.options
        spec.switches) := by
    simp [Keyed.keys, requestOf]
  rw [keys_eq] at switched
  have found := Keyed.isSome_get?_ofList_iff.1 (Keyed.isSome_get?_iff.2 switched)
  simpa [Keyed.keys] using found

theorem isJoined_requestOf (known : spec ∈ catalogue) (invocation : Invocation)
    (settings : Settings) : (requestOf spec invocation settings).IsJoined spec where
  named := by
    have inked : ∀ spec ∈ catalogue, spec.suffix.toList.all (!Text.isBlank ·) = true := by
      decide +kernel
    intro character member
    rw [name_requestOf, requestName, Text.withSuffix] at member
    split at member
    · exact Text.not_isBlank_of_mem_pascalCase character member
    · rw [String.toList_append] at member
      rcases List.mem_append.1 member with inBase | inSuffix
      · exact Text.not_isBlank_of_mem_pascalCase character inBase
      · have kept := List.all_eq_true.1 (inked spec known) character inSuffix
        rwa [Bool.not_eq_true'] at kept
  given name member := ⟨_, get?_params_requestOf known invocation settings member⟩
  unswitched := by
    have apart : ∀ spec ∈ catalogue, ∀ name ∈ spec.mustBeGiven, name ∉ spec.switches := by decide
    intro name member switched
    exact apart spec known name member (mem_switches_of_requestOf switched)

/-! ## Drafts at their sites -/

/-- Whether a draft is for the class at a site: it has the path of its file, and its text declares its
name in its namespace, up to a semicolon in the names. -/
structure Draft.IsFor (draft : Draft) (site : Site) : Prop where
  path_eq : draft.path.toList = site.path
  declares : ∀ content, draft.template.render draft.context = .ok content →
    namespaceOf? content = some (site.space.takeWhile (· ≠ ';')) ∧
      declaredName? content = some site.className.toList

theorem Draft.isFor_of_heading {draft : Draft} (heading : Heading) {site : Site}
    (listed : heading ∈ headings) (template_eq : draft.template = heading.template)
    (plain : Plain draft.context heading.values heading.imports)
    (named : draft.context.get? "name" = some (.text request.name))
    (inked : ∀ character ∈ request.name.toList, Text.isBlank character = false)
    (path_eq : draft.path.toList = site.path)
    (space_eq : outlineText draft.context heading.space = site.space)
    (className_eq : site.className = request.name ++ heading.suffix) : draft.IsFor site where
  path_eq := path_eq
  declares content rendered := by
    have written := isWritten_of_mem_headings heading listed
    rw [template_eq] at rendered
    have name_shown := shown_of_get? named
    constructor
    · rw [written.namespaceOf?_eq plain rendered, space_eq]
    · rw [written.declaredName?_eq plain rendered (name_shown ▸ inked), name_shown, className_eq,
        String.toList_append]

section Drafts

variable (inked : ∀ character ∈ request.name.toList, Text.isBlank character = false)

include inked

theorem whole_name : '\n' ∉ request.name.toList :=
  Text.feed_not_mem_of_not_blank inked

theorem whole_stripSuffix (suffix : String) :
    '\n' ∉ (Text.stripSuffix request.name suffix).toList :=
  fun member => whole_name inked (Text.mem_of_mem_stripSuffix member)

theorem isFor_jobDraft :
    (jobDraft request).IsFor ⟨"src/core", "Core", ["Jobs"], request.name⟩ := by
  have named : (jobDraft request).context.get? "name" = some (.text request.name) :=
    get?_contextWith_name (by simp [Keyed.keys])
  have short : (jobDraft request).context.get? "short_name" = some _ :=
    get?_contextWith_of_mem (by simp [Keyed.keys]) (List.mem_singleton_self _)
  refine Draft.isFor_of_heading jobHeading (by simp [headings]) rfl
    ⟨?_, List.forall_mem_nil _⟩ named inked ?_ ?_ ?_
  · simp only [jobHeading, List.forall_mem_cons]
    exact ⟨exists_whole named (whole_name inked), exists_whole short (whole_stripSuffix inked _),
      List.forall_mem_nil _⟩
  · simp [Site.path, joined, String.toList_append]
  · simp [jobHeading, Site.space, joined]
  · simp [jobHeading]

theorem isFor_seederDraft :
    (seederDraft request).IsFor ⟨"src/core", "Core", ["Database", "Seeders"], request.name⟩ := by
  have named : (seederDraft request).context.get? "name" = some (.text request.name) :=
    get?_contextWith_name (by simp [Keyed.keys])
  refine Draft.isFor_of_heading seederHeading (by simp [headings]) rfl
    ⟨?_, List.forall_mem_nil _⟩ named inked ?_ ?_ ?_
  · simp only [seederHeading, List.forall_mem_cons]
    exact ⟨exists_whole named (whole_name inked), List.forall_mem_nil _⟩
  · simp [Site.path, joined, String.toList_append]
  · simp [seederHeading, Site.space, joined]
  · simp [seederHeading]

theorem isFor_traitDraft (type : String) :
    (traitDraft request type).IsFor
      ⟨"src/core", "Core", ["Application", "Traits"], request.name⟩ := by
  have named : (traitDraft request type).context.get? "name" = some (.text request.name) :=
    get?_contextWith_name (by simp [Keyed.keys])
  have distinct (first second third fourth : Value) : (Keyed.keys (κ := String) (α := Value)
      [("type", first), ("domain", second), ("em_var", third), ("db_class", fourth)]).Nodup := by
    simp [Keyed.keys]
  have domain : (traitDraft request type).context.get? "domain" = some _ :=
    get?_contextWith_of_mem (distinct _ _ _ _) (List.mem_cons_of_mem _ List.mem_cons_self)
  have em_var : (traitDraft request type).context.get? "em_var" = some _ :=
    get?_contextWith_of_mem (distinct _ _ _ _)
      (List.mem_cons_of_mem _ (List.mem_cons_of_mem _ List.mem_cons_self))
  have db_class : (traitDraft request type).context.get? "db_class" = some _ :=
    get?_contextWith_of_mem (distinct _ _ _ _)
      (List.mem_cons_of_mem _ (List.mem_cons_of_mem _ (List.mem_cons_of_mem _ List.mem_cons_self)))
  have whole := whole_stripSuffix inked "Trait"
  refine Draft.isFor_of_heading traitHeading (by simp [headings]) rfl
    ⟨?_, List.forall_mem_nil _⟩ named inked ?_ ?_ ?_
  · simp only [traitHeading, List.forall_mem_cons]
    exact ⟨exists_whole named (whole_name inked), exists_whole domain whole,
      exists_whole em_var (by simp [String.toList_append, whole]),
      exists_whole db_class (by simp [String.toList_append, whole]), List.forall_mem_nil _⟩
  · simp [Site.path, joined, String.toList_append]
  · simp [traitHeading, Site.space, joined]
  · simp [traitHeading]

theorem isFor_eventDraft {module : String} (whole : '\n' ∉ module.toList) :
    (eventDraft request module).IsFor
      ⟨"src/core", "Core", ["Application", "Events", module], request.name⟩ := by
  have named : (eventDraft request module).context.get? "name" = some (.text request.name) :=
    get?_contextWith_name (by simp [Keyed.keys])
  have placed : (eventDraft request module).context.get? "module" = some (.text module) :=
    get?_contextWith_of_mem (by simp [Keyed.keys]) List.mem_cons_self
  have short : (eventDraft request module).context.get? "short_name" = some _ :=
    get?_contextWith_of_mem (by simp [Keyed.keys]) (List.mem_cons_of_mem _ List.mem_cons_self)
  refine Draft.isFor_of_heading eventHeading (by simp [headings]) rfl
    ⟨?_, List.forall_mem_nil _⟩ named inked ?_ ?_ ?_
  · simp only [eventHeading, List.forall_mem_cons]
    exact ⟨exists_whole placed whole, exists_whole named (whole_name inked),
      exists_whole short (whole_stripSuffix inked _), List.forall_mem_nil _⟩
  · simp [Site.path, joined, String.toList_append]
  · simp [eventHeading, Site.space, joined, shown_of_get? placed]
  · simp [eventHeading]

theorem isFor_entityDraft {schema : String} (whole : '\n' ∉ schema.toList) :
    (entityDraft request schema).IsFor
      ⟨"src/core", "Core", ["Domain", schema], request.name⟩ := by
  have named : (entityDraft request schema).context.get? "name" = some (.text request.name) :=
    get?_contextWith_name (by simp [Keyed.keys])
  have placed : (entityDraft request schema).context.get? "schema" = some (.text schema) :=
    get?_contextWith_of_mem (by simp [Keyed.keys]) List.mem_cons_self
  have table : (entityDraft request schema).context.get? "table_name" = some _ :=
    get?_contextWith_of_mem (by simp [Keyed.keys]) (List.mem_cons_of_mem _ List.mem_cons_self)
  have wholeTable : '\n' ∉ (Text.snakeCase request.name ++ "s").toList := by
    simp [Text.snakeCase, String.toList_append, Text.feed_not_mem_snake]
  refine Draft.isFor_of_heading entityHeading (by simp [headings]) rfl
    ⟨?_, List.forall_mem_nil _⟩ named inked ?_ ?_ ?_
  · simp only [entityHeading, List.forall_mem_cons]
    exact ⟨exists_whole placed whole, exists_whole named (whole_name inked),
      exists_whole table wholeTable, List.forall_mem_nil _⟩
  · simp [Site.path, joined, String.toList_append]
  · simp [entityHeading, Site.space, joined, shown_of_get? placed]
  · simp [entityHeading]

/-- The templates of a service and of middleware differ in what follows the name of the class. -/
theorem isFor_infrastructureDraft (kind suffix : String) (heading : Heading) {folder : String}
    (listed : heading ∈ [serviceHeading, middlewareHeading]) (whole : '\n' ∉ folder.toList) :
    (infrastructureDraft kind suffix heading.template request folder).IsFor
      ⟨"src/infrastructure", "Infrastructure", [folder], request.name⟩ := by
  have named : (infrastructureDraft kind suffix heading.template request folder).context.get? "name" =
      some (.text request.name) :=
    get?_contextWith_name (by simp [Keyed.keys])
  have placed : (infrastructureDraft kind suffix heading.template request folder).context.get?
      "folder" = some (.text folder) :=
    get?_contextWith_of_mem (by simp [Keyed.keys]) List.mem_cons_self
  have short : (infrastructureDraft kind suffix heading.template request folder).context.get?
      "short_name" = some _ :=
    get?_contextWith_of_mem (by simp [Keyed.keys]) (List.mem_cons_of_mem _ List.mem_cons_self)
  have values_eq : heading.values = ["folder", "name", "short_name"] ∧ heading.imports = [] ∧
      heading.space = plainOutline "Infrastructure\\" ++ [.value "folder"] ∧ heading.suffix = "" ∧
      heading ∈ headings := by
    rcases List.mem_pair.1 listed with rfl | rfl <;> simp [serviceHeading, middlewareHeading, headings]
  obtain ⟨values_eq, imports_eq, space_eq, suffix_eq, among⟩ := values_eq
  refine Draft.isFor_of_heading heading among rfl ?_ named inked ?_ ?_ ?_
  · rw [values_eq, imports_eq]
    refine ⟨?_, List.forall_mem_nil _⟩
    simp only [List.forall_mem_cons]
    exact ⟨exists_whole placed whole, exists_whole named (whole_name inked),
      exists_whole short (whole_stripSuffix inked _), List.forall_mem_nil _⟩
  · simp [Site.path, joined, String.toList_append]
  · simp [space_eq, Site.space, joined, shown_of_get? placed]
  · simp [suffix_eq]

theorem plain_listenerDraft {event : String} (tracing logging : Bool)
    (given : request.params.get? "event" = some (.text event))
    (unswitched : "event" ∉ Keyed.keys request.switches) (whole : '\n' ∉ event.toList) :
    (listenerDraft request tracing logging).context.get? "name" = some (.text request.name) ∧
      (listenerDraft request tracing logging).context.get? "event" = some (.text event) ∧
      Plain (listenerDraft request tracing logging).context listenerHeading.values
        listenerHeading.imports := by
  have named : (listenerDraft request tracing logging).context.get? "name" =
      some (.text request.name) :=
    get?_contextWith_name (by simp [Keyed.keys])
  have heard : (listenerDraft request tracing logging).context.get? "event" = some (.text event) :=
    (get?_contextWith_param (by simp [Keyed.keys]) (by decide) unswitched).trans given
  have imports : (listenerDraft request tracing logging).context.get? "imports" =
      some (nameList (importNames _ _)) :=
    get?_contextWith_of_mem (by simp [Keyed.keys]) (List.mem_cons_of_mem _ List.mem_cons_self)
  refine ⟨named, heard, ?_, ?_⟩
  · simp only [listenerHeading, List.forall_mem_cons]
    exact ⟨exists_whole named (whole_name inked), exists_whole heard whole, List.forall_mem_nil _⟩
  · simp only [listenerHeading, List.forall_mem_cons]
    refine ⟨exists_listed imports (List.cons_ne_nil _ _) (by decide +kernel) ?_,
      List.forall_mem_nil _⟩
    simp only [List.forall_mem_cons]
    exact ⟨by decide +kernel, by decide +kernel, List.forall_mem_nil _⟩

theorem isFor_listenerDraft {event : String} (tracing logging : Bool)
    (given : request.params.get? "event" = some (.text event))
    (unswitched : "event" ∉ Keyed.keys request.switches) (whole : '\n' ∉ event.toList) :
    (listenerDraft request tracing logging).IsFor
      ⟨"src/core", "Core", ["Application", "Listeners"], request.name⟩ := by
  obtain ⟨named, -, plain⟩ := plain_listenerDraft inked tracing logging given unswitched whole
  refine Draft.isFor_of_heading listenerHeading (by simp [headings]) rfl plain named inked ?_ ?_ ?_
  · simp [Site.path, joined, String.toList_append]
  · simp [listenerHeading, Site.space, joined]
  · simp [listenerHeading]

theorem isFor_controllerDraft {module : String} (auth logging tracing : Bool)
    (given : request.params.get? "module" = some (.text module))
    (unswitched : "module" ∉ Keyed.keys request.switches) (whole : '\n' ∉ module.toList) :
    (controllerDraft request module auth logging tracing).IsFor
      ⟨"src/presentation", "Presentation", [module, "Controllers"], request.name⟩ := by
  have named : (controllerDraft request module auth logging tracing).context.get? "name" =
      some (.text request.name) :=
    get?_contextWith_name (by simp [Keyed.keys])
  have placed : (controllerDraft request module auth logging tracing).context.get? "module" =
      some (.text module) :=
    (get?_contextWith_param (by simp [Keyed.keys]) (by decide) unswitched).trans given
  have distinct (first second third fourth : Value) : (Keyed.keys (κ := String) (α := Value)
      [("short_name", first), ("route_name", second), ("area_name", third),
        ("imports", fourth)]).Nodup := by
    simp [Keyed.keys]
  have short : (controllerDraft request module auth logging tracing).context.get? "short_name" =
      some _ :=
    get?_contextWith_of_mem (distinct _ _ _ _) List.mem_cons_self
  have area : (controllerDraft request module auth logging tracing).context.get? "area_name" =
      some _ :=
    get?_contextWith_of_mem (distinct _ _ _ _)
      (List.mem_cons_of_mem _ (List.mem_cons_of_mem _ List.mem_cons_self))
  have imports : (controllerDraft request module auth logging tracing).context.get? "imports" =
      some (nameList (importNames _ _)) :=
    get?_contextWith_of_mem (distinct _ _ _ _)
      (List.mem_cons_of_mem _ (List.mem_cons_of_mem _ (List.mem_cons_of_mem _ List.mem_cons_self)))
  have wholeShort := whole_stripSuffix inked "Controller"
  have wholeArea : '\n' ∉ (Text.kebabCase module).toList := by
    rw [Text.kebabCase, String.toList_ofList]
    exact Text.feed_not_mem_kebab _
  refine Draft.isFor_of_heading controllerHeading (by simp [headings]) rfl ⟨?_, ?_⟩ named inked ?_ ?_
    ?_
  · simp only [controllerHeading, List.forall_mem_cons]
    exact ⟨exists_whole placed whole, exists_whole named (whole_name inked),
      exists_whole short wholeShort, exists_whole area wholeArea, List.forall_mem_nil _⟩
  · simp only [controllerHeading, List.forall_mem_cons]
    refine ⟨exists_listed imports (List.cons_ne_nil _ _) ?_ ?_, List.forall_mem_nil _⟩
    · refine List.forall_mem_append.2 ⟨by decide +kernel, ?_⟩
      simp [requestImports, String.toList_append, wholeShort]
    · simp only [List.forall_mem_cons]
      exact ⟨by decide +kernel, by decide +kernel, by decide +kernel, List.forall_mem_nil _⟩
  · simp [Site.path, joined, String.toList_append]
  · simp [controllerHeading, Site.space, joined, shown_of_get? placed]
  · simp [controllerHeading]

/-- Both files of a request name it and declare the same namespace. -/
theorem plain_requestContext {kind folder module entity : String} (tracing logging : Bool)
    (wholeKind : '\n' ∉ kind.toList) (wholeModule : '\n' ∉ module.toList)
    (wholeEntity : '\n' ∉ entity.toList) (wholeFolder : '\n' ∉ folder.toList) :
    (requestContext kind folder request module entity tracing logging).get? "name" =
        some (.text request.name) ∧
      (requestContext kind folder request module entity tracing logging).get? "namespace" =
        some (.text ("Core\\Application\\Logics\\" ++ module ++ "\\" ++ entity ++ "\\" ++ folder)) ∧
      Plain (requestContext kind folder request module entity tracing logging)
        ["namespace", "name", "request_kind"] ["handler_imports"] := by
  have named : (requestContext kind folder request module entity tracing logging).get? "name" =
      some (.text request.name) :=
    get?_contextWith_name (by simp [Keyed.keys])
  have distinct (first second third : Value) : (Keyed.keys (κ := String) (α := Value)
      [("namespace", first), ("request_kind", second), ("handler_imports", third)]).Nodup := by
    simp [Keyed.keys]
  have space : (requestContext kind folder request module entity tracing logging).get? "namespace" =
      some (.text ("Core\\Application\\Logics\\" ++ module ++ "\\" ++ entity ++ "\\" ++ folder)) :=
    get?_contextWith_of_mem (distinct _ _ _) List.mem_cons_self
  have called : (requestContext kind folder request module entity tracing logging).get?
      "request_kind" = some (.text kind) :=
    get?_contextWith_of_mem (distinct _ _ _) (List.mem_cons_of_mem _ List.mem_cons_self)
  have imports : (requestContext kind folder request module entity tracing logging).get?
      "handler_imports" = some (nameList (importNames _ _)) :=
    get?_contextWith_of_mem (distinct _ _ _)
      (List.mem_cons_of_mem _ (List.mem_cons_of_mem _ List.mem_cons_self))
  refine ⟨named, space, ?_, ?_⟩
  · simp only [List.forall_mem_cons]
    exact ⟨exists_whole space (by
        simp [String.toList_append, wholeModule, wholeEntity, wholeFolder]),
      exists_whole named (whole_name inked), exists_whole called wholeKind, List.forall_mem_nil _⟩
  · simp only [List.forall_mem_cons]
    refine ⟨exists_listed imports (List.cons_ne_nil _ _) (by decide +kernel) ?_,
      List.forall_mem_nil _⟩
    simp only [List.forall_mem_cons]
    exact ⟨by decide +kernel, by decide +kernel, List.forall_mem_nil _⟩

theorem isFor_of_requestContext {draft : Draft} (heading : Heading)
    {kind folder module entity : String} {tracing logging : Bool}
    (wholeKind : '\n' ∉ kind.toList) (wholeModule : '\n' ∉ module.toList)
    (wholeEntity : '\n' ∉ entity.toList) (wholeFolder : '\n' ∉ folder.toList)
    (listed : heading ∈ headings) (template_eq : draft.template = heading.template)
    (context_eq : draft.context = requestContext kind folder request module entity tracing logging)
    (path_eq : draft.path.toList = Site.path ⟨"src/core", "Core",
      ["Application", "Logics", module, entity, folder], request.name ++ heading.suffix⟩)
    (values_subset : heading.values ⊆ ["namespace", "name", "request_kind"])
    (imports_subset : heading.imports ⊆ ["handler_imports"])
    (space_eq : heading.space = [.value "namespace"]) :
    draft.IsFor ⟨"src/core", "Core", ["Application", "Logics", module, entity, folder],
      request.name ++ heading.suffix⟩ := by
  obtain ⟨named, space, plain⟩ :=
    plain_requestContext inked tracing logging wholeKind wholeModule wholeEntity wholeFolder
  rw [← context_eq] at named space plain
  refine Draft.isFor_of_heading heading listed template_eq (plain.mono values_subset imports_subset)
    named inked path_eq ?_ rfl
  rw [space_eq, outlineText_value_cons, shown_of_get? space]
  simp [Site.space, joined, String.toList_append]

theorem isFor_requestDraft {kind folder module entity : String} (heading : Heading)
    (tracing logging : Bool) (listed : heading ∈ [commandHeading, queryHeading])
    (wholeKind : '\n' ∉ kind.toList) (wholeModule : '\n' ∉ module.toList)
    (wholeEntity : '\n' ∉ entity.toList) (wholeFolder : '\n' ∉ folder.toList) :
    (requestDraft kind folder heading.template request module entity tracing logging).IsFor
      ⟨"src/core", "Core", ["Application", "Logics", module, entity, folder], request.name⟩ := by
  obtain ⟨among, values_subset, imports_subset, space_eq, suffix_eq⟩ :
      heading ∈ headings ∧ heading.values ⊆ ["namespace", "name", "request_kind"] ∧
        heading.imports ⊆ ["handler_imports"] ∧ heading.space = [.value "namespace"] ∧
        heading.suffix = "" := by
    rcases List.mem_pair.1 listed with rfl | rfl <;> simp [commandHeading, queryHeading, headings]
  have isFor : (requestDraft kind folder heading.template request module entity tracing logging).IsFor
      ⟨"src/core", "Core", ["Application", "Logics", module, entity, folder],
        request.name ++ heading.suffix⟩ := by
    refine isFor_of_requestContext inked heading wholeKind wholeModule wholeEntity wholeFolder among
      rfl rfl ?_ values_subset imports_subset space_eq
    simp [suffix_eq, Site.path, joined, String.toList_append]
  rwa [suffix_eq, String.append_empty] at isFor

theorem isFor_handlerDraft {kind folder module entity : String} (tracing logging : Bool)
    (wholeKind : '\n' ∉ kind.toList) (wholeModule : '\n' ∉ module.toList)
    (wholeEntity : '\n' ∉ entity.toList) (wholeFolder : '\n' ∉ folder.toList) :
    (handlerDraft kind folder request module entity tracing logging).IsFor
      ⟨"src/core", "Core", ["Application", "Logics", module, entity, folder],
        request.name ++ "Handler"⟩ := by
  refine isFor_of_requestContext inked handlerHeading wholeKind wholeModule wholeEntity wholeFolder
    (by simp [headings]) rfl rfl ?_ (by simp [handlerHeading]) (by simp [handlerHeading]) rfl
  simp [handlerHeading, Site.path, joined, String.toList_append]

end Drafts

/-! ## Generators and their frames -/

/-- Whether a generator drafts files for a request, each for a class in its frame. -/
structure DraftsFor (spec : Spec) (request : Request) (drafts : List Draft) : Prop where
  drafted : Drafts spec.provide request drafts
  framed : ∀ draft ∈ drafts, ∃ suffix ∈ (frameOf spec).suffixes,
    draft.IsFor ((frameOf spec).site (placeNames spec request) (request.name ++ suffix))

theorem whole_nameOf (fields : Fields) (name : String) : '\n' ∉ (nameOf fields name).toList :=
  Text.feed_not_mem_of_not_blank Text.not_isBlank_of_mem_pascalCase

theorem whole_pascalCase (text : String) : '\n' ∉ (Text.pascalCase text).toList :=
  Text.feed_not_mem_of_not_blank Text.not_isBlank_of_mem_pascalCase

/-- The names in the place of a class, by the parameters and the options that they come from. -/
theorem placeNames_eq (needed options : List String) (needed_eq : spec.need.options = needed)
    (options_eq : (Keyed.keys spec.options).filter (placeOptions.contains ·) = options) :
    placeNames spec request =
      (needed.map fun name => ((request.params.get? name).getD .null).display) ++
        options.map (nameOf request.params) := by
  rw [placeNames, needed_eq, options_eq]

theorem placeNames_of_two {module entity : String}
    (needed_eq : spec.need.options = ["module", "entity"])
    (options_eq : (Keyed.keys spec.options).filter (placeOptions.contains ·) = [])
    (moduleGiven : request.params.get? "module" = some (.text module))
    (entityGiven : request.params.get? "entity" = some (.text entity)) :
    placeNames spec request = [module, entity] := by
  rw [placeNames_eq _ _ needed_eq options_eq, List.map_cons, List.map_singleton, moduleGiven,
    entityGiven]
  rfl

theorem placeNames_controller (invocation : Invocation) (settings : Settings) :
    placeNames controllerSpec (requestOf controllerSpec invocation settings) =
      [nameOf invocation.options "module"] := by
  rw [placeNames_eq ["module"] [] rfl (by decide), List.map_singleton, module_requestOf]
  rfl

/-- A generator of one file drafts it in its frame. The names in its place come from the parameters that
it needs and from its options. -/
theorem exists_draftsFor_of_one {draft : Draft} {site : Site} (needed options : List String)
    (drafted : Drafts spec.provide request [draft]) (isFor : draft.IsFor site)
    (suffixes_eq : (frameOf spec).suffixes = [""]) (needed_eq : spec.need.options = needed)
    (options_eq : (Keyed.keys spec.options).filter (placeOptions.contains ·) = options)
    (site_eq : site = (frameOf spec).site
      ((needed.map fun name => ((request.params.get? name).getD .null).display) ++
        options.map (nameOf request.params)) request.name) :
    ∃ drafts, DraftsFor spec request drafts := by
  refine ⟨_, drafted, List.forall_mem_singleton.2 ⟨"", suffixes_eq ▸ List.mem_cons_self, ?_⟩⟩
  rw [String.append_empty, placeNames_eq needed options needed_eq options_eq, ← site_eq]
  exact isFor

theorem exists_draftsFor_request {kind folder module entity : String} (heading : Heading)
    {tracing logging : Bool} (isJoined : request.IsJoined spec)
    (listed : heading ∈ [commandHeading, queryHeading]) (wholeKind : '\n' ∉ kind.toList)
    (wholeFolder : '\n' ∉ folder.toList) (wholeModule : '\n' ∉ module.toList)
    (wholeEntity : '\n' ∉ entity.toList)
    (drafted : Drafts spec.provide request
      [requestDraft kind folder heading.template request module entity tracing logging,
        handlerDraft kind folder request module entity tracing logging])
    (frame_eq : frameOf spec = ⟨"src/core", "Core", ["Application", "Logics"], [folder],
      ["", "Handler"]⟩)
    (names_eq : placeNames spec request = [module, entity]) :
    ∃ drafts, DraftsFor spec request drafts := by
  refine ⟨_, drafted, ?_⟩
  rw [frame_eq, names_eq]
  refine List.forall_mem_cons.2 ⟨⟨"", List.mem_cons_self, ?_⟩, List.forall_mem_singleton.2
    ⟨"Handler", List.mem_cons_of_mem _ (List.mem_singleton_self _), ?_⟩⟩
  · rw [String.append_empty]
    exact isFor_requestDraft isJoined.named heading tracing logging listed wholeKind wholeModule
      wholeEntity wholeFolder
  · exact isFor_handlerDraft isJoined.named tracing logging wholeKind wholeModule wholeEntity
      wholeFolder

/-- Every generator drafts its files for classes in its frame. -/
theorem exists_draftsFor (known : spec ∈ catalogue) (supplies : request.Supplies spec)
    (isJoined : request.IsJoined spec) : ∃ drafts, DraftsFor spec request drafts := by
  have inked := isJoined.named
  simp only [catalogue, List.mem_cons, List.not_mem_nil, or_false] at known
  -- One case for each generator, in the order of the catalogue: what it needs is given, and its place
  -- is read off its parameters and options.
  rcases known with rfl | rfl | rfl | rfl | rfl | rfl | rfl | rfl | rfl | rfl | rfl
  · obtain ⟨module, moduleGiven⟩ := isJoined.given "module" (by decide)
    obtain ⟨entity, entityGiven⟩ := isJoined.given "entity" (by decide)
    obtain ⟨_, _, drafted⟩ := exists_drafts_command supplies moduleGiven entityGiven
    refine exists_draftsFor_request commandHeading isJoined (by simp) (by decide) (by decide)
      (whole_pascalCase module) (whole_pascalCase entity) drafted rfl ?_
    exact placeNames_of_two rfl (by decide) moduleGiven entityGiven
  · obtain ⟨module, moduleGiven⟩ := isJoined.given "module" (by decide)
    obtain ⟨entity, entityGiven⟩ := isJoined.given "entity" (by decide)
    obtain ⟨_, _, drafted⟩ := exists_drafts_query supplies moduleGiven entityGiven
    refine exists_draftsFor_request queryHeading isJoined (by simp) (by decide) (by decide)
      (whole_pascalCase module) (whole_pascalCase entity) drafted rfl ?_
    exact placeNames_of_two rfl (by decide) moduleGiven entityGiven
  · obtain ⟨module, given⟩ := isJoined.given "module" (by decide)
    obtain ⟨auth, logging, tracing, drafted⟩ := exists_drafts_controller supplies given
    refine exists_draftsFor_of_one ["module"] [] drafted (isFor_controllerDraft inked auth logging
      tracing given (isJoined.unswitched "module" (by decide)) (whole_pascalCase module)) rfl rfl
      (by decide) ?_
    rw [List.map_singleton, given]
    rfl
  · exact exists_draftsFor_of_one [] [] (drafts_job supplies) (isFor_jobDraft inked) rfl rfl
      (by decide) rfl
  · exact exists_draftsFor_of_one [] ["module"] (drafts_event supplies)
      (isFor_eventDraft inked (whole_nameOf _ _)) rfl rfl (by decide) rfl
  · obtain ⟨event, given⟩ := isJoined.given "event" (by decide)
    obtain ⟨tracing, logging, drafted⟩ := exists_drafts_listener supplies
    exact exists_draftsFor_of_one [] [] drafted (isFor_listenerDraft inked tracing logging given
      (isJoined.unswitched "event" (by decide)) (whole_pascalCase event)) rfl rfl (by decide) rfl
  · exact exists_draftsFor_of_one [] ["folder"]
      (drafts_infrastructure supplies (by decide) (by decide) rfl)
      (isFor_infrastructureDraft inked "service" "Service" serviceHeading (by simp)
        (whole_nameOf _ _)) rfl rfl (by decide) rfl
  · exact exists_draftsFor_of_one [] ["folder"]
      (drafts_infrastructure supplies (by decide) (by decide) rfl)
      (isFor_infrastructureDraft inked "middleware" "Middleware" middlewareHeading (by simp)
        (whole_nameOf _ _)) rfl rfl (by decide) rfl
  · exact exists_draftsFor_of_one [] ["schema"] (drafts_entity supplies)
      (isFor_entityDraft inked (whole_nameOf _ _)) rfl rfl (by decide) rfl
  · exact exists_draftsFor_of_one [] [] (drafts_seeder supplies) (isFor_seederDraft inked) rfl rfl
      (by decide) rfl
  · obtain ⟨type, drafted⟩ := exists_drafts_trait supplies
    exact exists_draftsFor_of_one [] [] drafted (isFor_traitDraft inked type) rfl rfl (by decide)
      rfl

/-! ## Artifacts at their sites -/

/-- Whether an artifact is the file of the class at a site. -/
structure IsMadeFor (artifact : Artifact) (site : Site) : Prop where
  parts_eq : artifact.parts = Path.partsOf (site.path.map Artifact.slash)
  space_eq : namespaceOf? artifact.content = some (site.space.takeWhile (· ≠ ';'))
  className_eq : declaredName? artifact.content = some site.className.toList

/-- Every artifact of a request is the file of a class in the frame of its generator. -/
theorem exists_isMadeFor (known : spec ∈ catalogue) (supplies : request.Supplies spec)
    (isJoined : request.IsJoined spec) {artifacts : List Artifact}
    (provided : spec.provide request = .ok artifacts) :
    ∀ artifact ∈ artifacts, ∃ suffix ∈ (frameOf spec).suffixes, IsMadeFor artifact
      ((frameOf spec).site (placeNames spec request) (request.name ++ suffix)) := by
  intro artifact member
  obtain ⟨drafts, drafted, framed⟩ := exists_draftsFor known supplies isJoined
  rw [drafted.provide_eq] at provided
  obtain ⟨draft, among, made⟩ := Draft.exists_of_mem_mapM provided member
  obtain ⟨suffix, listed, isFor⟩ := framed draft among
  obtain ⟨parts_eq, -⟩ :=
    Draft.parts_of_artifact (drafted.below draft among) made
  obtain ⟨space_eq, className_eq⟩ := isFor.declares _ (Draft.artifact_eq_ok_iff.1 made).1
  exact ⟨suffix, listed, by rw [parts_eq, Draft.parts, isFor.path_eq], space_eq, className_eq⟩

end Scaffold.Generator
