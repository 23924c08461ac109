import Scaffold.Proofs.Composition.Import
import Scaffold.Proofs.Disk.Lexical
import Scaffold.Proofs.Generator.Site
import Scaffold.Proofs.Generator.Written

/-!
# Classes where they are looked for

A class is looked for at the path that its full name spells. If the names that a user gives consist of
word characters, every class that is made is at this path, and a controller is registered under the
full name that its file declares.
-/

set_option autoImplicit false

namespace Scaffold.Generator

open Template
open Scaffold.Composition (IsName)

variable {spec : Spec} {request : Request}

/-! ## Full names and paths -/

/-- The directories of the sources and the namespaces that stand for them. -/
def sourceRoots : List (String × String) :=
  [("src/core", "Core"), ("src/presentation", "Presentation"),
    ("src/infrastructure", "Infrastructure")]

def backslash (character : Char) : Char :=
  if character = '/' then '\\' else character

/-- Whether a class with a full name is looked for at a path. -/
def IsLookedForAt (fullName : List Char) (path : String) : Prop :=
  ∃ root ∈ sourceRoots, ∃ rest, path.toList = root.1.toList ++ '/' :: rest ++ ".php".toList ∧
    fullName = root.2.toList ++ '\\' :: rest.map backslash

/-- Names keep their characters when the separators between them are changed. -/
theorem map_joined {convert : Char → Char} {separator : Char} {names : List String}
    (kept : ∀ name ∈ names, ∀ character ∈ name.toList, convert character = character) :
    (joined separator names).map convert = joined (convert separator) names := by
  induction names with
  | nil => rfl
  | cons name names ih =>
    obtain ⟨keptFirst, keptRest⟩ := List.forall_mem_cons.1 kept
    have first : name.toList.map convert = name.toList :=
      (List.map_congr_left keptFirst).trans (List.map_id _)
    have rest := ih keptRest
    rw [joined, joined, List.flatMap_cons, List.flatMap_cons, List.map_append, List.map_cons, first]
    exact congrArg _ rest

/-- Whether a text is a component of a path as it stands, and one that goes on. -/
structure IsComponent (name : String) : Prop where
  filled : name ≠ ""
  moves : name ≠ "."
  descends : name ≠ ".."
  single : '/' ∉ name.toList
  unslashed : '\\' ∉ name.toList

theorem partsOf_component {name : String} (component : IsComponent name) :
    Path.partsOf name.toList = [name] :=
  Path.partsOf_of_isPart ⟨component.filled, component.moves, component.single⟩

theorem partsOf_joined (front : List Char) {names : List String}
    (components : ∀ name ∈ names, IsComponent name) :
    Path.partsOf (front ++ joined '/' names) = Path.partsOf front ++ names := by
  induction names generalizing front with
  | nil => rw [joined, List.flatMap_nil, List.append_nil, List.append_nil]
  | cons name names ih =>
    obtain ⟨first, rest⟩ := List.forall_mem_cons.1 components
    have below := ih name.toList rest
    have joined_eq : joined '/' (name :: names) = '/' :: (name.toList ++ joined '/' names) := rfl
    rw [joined_eq, Path.partsOf_append_cons_slash, below, partsOf_component first]
    rfl

theorem toList_intercalate (first : String) (names : List String) :
    ("/".intercalate (first :: names)).toList = first.toList ++ joined '/' names := by
  induction names generalizing first with
  | nil =>
    rw [String.toList_intercalate, List.map_singleton, List.intercalate_singleton, joined,
      List.flatMap_nil, List.append_nil]
  | cons second names ih =>
    have below := ih second
    have slash : "/".toList = ['/'] := rfl
    rw [String.toList_intercalate, List.map_cons] at below
    rw [String.toList_intercalate, List.map_cons, List.map_cons, List.intercalate_cons_cons, below,
      slash, List.append_assoc, List.singleton_append]
    rfl

/-! ## Sites with names of word characters -/

/-- Whether a site is in a directory of sources, and its names consist of word characters. -/
structure Site.IsNamed (site : Site) : Prop where
  root : (site.directory, site.top) ∈ sourceRoots
  names : ∀ name ∈ site.names, IsName name.toList
  className : IsName site.className.toList

theorem isComponent_of_isName {name : String} (named : IsName name.toList) : IsComponent name where
  filled := by
    rintro rfl
    exact named.1 rfl
  moves := by
    rintro rfl
    exact absurd (named.2 '.' (by decide)) (by decide)
  descends := by
    rintro rfl
    exact absurd (named.2 '.' (by decide)) (by decide)
  single := named.not_mem (by decide)
  unslashed := named.not_mem (by decide)

theorem isComponent_fileName {name : String} (named : IsName name.toList) :
    IsComponent (name ++ ".php") := by
  have longer (other : String) (short : other.toList.length < 4) : name ++ ".php" ≠ other := by
    rintro rfl
    rw [String.toList_append, List.length_append] at short
    have length_eq : ".php".toList.length = 4 := rfl
    omega
  have absent {character : Char} (other : Text.isWord character = false)
      (different : character ∉ ".php".toList) : character ∉ (name ++ ".php").toList := by
    rw [String.toList_append, List.mem_append, not_or]
    exact ⟨named.not_mem other, different⟩
  exact ⟨longer "" (by decide), longer "." (by decide), longer ".." (by decide),
    absent (by decide) (by decide), absent (by decide) (by decide)⟩

/-- The components of a path that starts in the directory of all sources are those that it is written
with. -/
theorem partsOf_map_slash {names : List String} (components : ∀ name ∈ names, IsComponent name) :
    Path.partsOf (("src".toList ++ joined '/' names).map Artifact.slash) = "src" :: names := by
  have kept : (joined '/' names).map Artifact.slash = joined '/' names := by
    refine map_joined fun name member character among => if_neg ?_
    rintro rfl
    exact (components name member).unslashed among
  have front : "src".toList.map Artifact.slash = "src".toList := by decide
  have source : Path.partsOf "src".toList = ["src"] := by decide
  rw [List.map_append, front, kept, partsOf_joined _ components, source]
  rfl

theorem toList_pathText {artifact : Artifact} {names : List String}
    (parts_eq : artifact.parts = "src" :: names) :
    artifact.pathText.toList = "src".toList ++ joined '/' names := by
  have pathText_eq : artifact.pathText = "" ++ "/".intercalate ("src" :: names) := by
    rw [Artifact.pathText, Artifact.path, parts_eq]
    rfl
  rw [pathText_eq, String.empty_append, toList_intercalate]

namespace Site.IsNamed

variable {site : Site}

/-- The path of a named site is made of components, all of which go on. -/
theorem exists_path_eq (named : site.IsNamed) :
    ∃ names, site.path = "src".toList ++ joined '/' names ∧ ∀ name ∈ names, IsComponent name := by
  have roots : ∀ root ∈ sourceRoots, ∃ source, IsComponent source ∧
      root.1.toList = "src".toList ++ joined '/' [source] := by
    simp only [sourceRoots, List.forall_mem_cons]
    exact ⟨⟨"core", isComponent_of_isName (by decide +kernel), by decide +kernel⟩,
      ⟨"presentation", isComponent_of_isName (by decide +kernel), by decide +kernel⟩,
      ⟨"infrastructure", isComponent_of_isName (by decide +kernel), by decide +kernel⟩, nofun⟩
  obtain ⟨source, component, directory_eq⟩ := roots _ named.root
  refine ⟨[source] ++ site.names ++ [site.className ++ ".php"], ?_, ?_⟩
  · rw [Site.path, directory_eq, joined_append, joined_append, joined_append, joined_singleton,
      joined_singleton, joined_singleton, String.toList_append]
    simp only [List.append_assoc, List.cons_append]
  · simp only [List.forall_mem_append, List.forall_mem_singleton]
    exact ⟨⟨component, fun name member => isComponent_of_isName (named.names name member)⟩,
      isComponent_fileName named.className⟩

/-- The path of a named site is the one at which its class is looked for. -/
theorem isLookedForAt (named : site.IsNamed) {path : String} (path_eq : path.toList = site.path) :
    IsLookedForAt (site.space ++ '\\' :: site.className.toList) path := by
  obtain ⟨first, others, split⟩ : ∃ first others, site.names ++ [site.className] = first :: others :=
    List.exists_cons_of_ne_nil (by simp)
  have kept : (joined '/' (site.names ++ [site.className])).map backslash =
      joined '\\' (site.names ++ [site.className]) := by
    refine map_joined fun name member character among => if_neg ?_
    rintro rfl
    rcases List.mem_append.1 member with inNames | isClass
    · exact (named.names name inNames).not_mem (by decide) among
    · rw [List.mem_singleton.1 isClass] at among
      exact named.className.not_mem (by decide) among
  refine ⟨_, named.root, first.toList ++ joined '/' others, ?_, ?_⟩
  · rw [path_eq, Site.path, split]
    rfl
  · rw [Site.space, List.append_assoc, ← joined_singleton, ← joined_append, ← kept, split]
    rfl

theorem pathText_eq (named : site.IsNamed) {artifact : Artifact}
    (madeFor : IsMadeFor artifact site) : artifact.pathText.toList = site.path := by
  obtain ⟨names, written, components⟩ := named.exists_path_eq
  have parts_eq := madeFor.parts_eq
  rw [written, partsOf_map_slash components] at parts_eq
  rw [written, toList_pathText parts_eq]

theorem takeWhile_space (named : site.IsNamed) :
    site.space.takeWhile (· ≠ ';') = site.space := by
  have roots : ∀ root ∈ sourceRoots, ';' ∉ root.2.toList := by decide
  refine Text.takeWhile_of_not_mem fun member => ?_
  rcases List.mem_append.1 member with inTop | inNames
  · exact roots _ named.root inTop
  · obtain ⟨name, among, inName⟩ := List.mem_flatMap.1 inNames
    rcases List.mem_cons.1 inName with separator | inName
    · cases separator
    · exact (named.names name among).not_mem (by decide) inName

end Site.IsNamed

/-! ## Requests with names of word characters -/

theorem isNamed_site (known : spec ∈ catalogue) (named : IsName request.name.toList)
    (placed : ∀ name ∈ placeNames spec request, IsName name.toList) {suffix : String}
    (listed : suffix ∈ (frameOf spec).suffixes) :
    ((frameOf spec).site (placeNames spec request) (request.name ++ suffix)).IsNamed := by
  have framed : ∀ spec ∈ catalogue,
      ((frameOf spec).directory, (frameOf spec).top) ∈ sourceRoots ∧
        (∀ name ∈ (frameOf spec).before ++ (frameOf spec).after, IsName name.toList) ∧
        ∀ suffix ∈ (frameOf spec).suffixes, suffix.toList.all Text.isWord = true := by
    decide +kernel
  obtain ⟨root, fixed, suffixed⟩ := framed spec known
  obtain ⟨before, after⟩ := List.forall_mem_append.1 fixed
  refine ⟨root, ?_, ?_, ?_⟩
  · exact List.forall_mem_append.2 ⟨List.forall_mem_append.2 ⟨before, placed⟩, after⟩
  · intro empty
    rw [Frame.site, String.toList_append] at empty
    exact named.1 (List.append_eq_nil_iff.1 empty).1
  · intro character member
    rw [Frame.site, String.toList_append] at member
    rcases List.mem_append.1 member with inName | inSuffix
    · exact named.2 character inName
    · exact List.all_eq_true.1 (suffixed suffix listed) character inSuffix

/-- A request with names of word characters is provided with its artifacts. -/
theorem exists_provided (known : spec ∈ catalogue) (supplies : request.Supplies spec)
    (isJoined : request.IsJoined spec) (named : IsName request.name.toList)
    (placed : ∀ name ∈ placeNames spec request, IsName name.toList) :
    ∃ artifacts, spec.provide request = .ok artifacts ∧ artifacts ≠ [] := by
  obtain ⟨drafts, drafted, framed⟩ := exists_draftsFor known supplies isJoined
  rcases Draft.mapM_artifact_cases drafted.bound drafted.below with
    ⟨artifacts, made, -⟩ | ⟨before, draft, after, rfl, -, up, -⟩
  · have provided := drafted.provide_eq.trans made
    exact ⟨artifacts, provided, artifacts_ne_nil known supplies provided⟩
  · obtain ⟨suffix, listed, isFor⟩ :=
      framed draft (List.mem_append_right _ List.mem_cons_self)
    obtain ⟨names, path_eq, components⟩ := (isNamed_site known named placed listed).exists_path_eq
    rw [Draft.GoesUp, Draft.parts, isFor.path_eq, path_eq, partsOf_map_slash components] at up
    rcases List.mem_cons.1 up with source | below
    · exact absurd source (by decide)
    · exact absurd rfl (components ".." below).descends

/-- A controller is registered under the full name that is looked for at its path. -/
theorem exists_complete_of_registers {root : Path} {invocation : Invocation} {settings : Settings}
    (known : spec ∈ catalogue) (registers : spec.registers = true)
    (real : invocation.isDryRun = false) {suffix : String}
    (listed : suffix ∈ (frameOf spec).suffixes) {site : Site}
    (site_eq : site = (frameOf spec).site (placeNames spec (requestOf spec invocation settings))
      (requestName spec invocation ++ suffix)) :
    ∃ path file, complete root spec (requestOf spec invocation settings) = (do
      let outcome ← registerFile path (String.ofList (site.space ++ '\\' :: site.className.toList))
        site.className
      reportOutcome file outcome
      advise spec (requestOf spec invocation settings)) := by
  obtain rfl := eq_controllerSpec known registers
  obtain rfl : suffix = "" := List.mem_singleton.1 listed
  have fullName_eq : String.ofList (site.space ++ '\\' :: site.className.toList) =
      controllerClass (nameOf invocation.options "module") (requestName controllerSpec invocation) := by
    rw [site_eq, placeNames_controller, String.append_empty, ← String.toList_inj, String.toList_ofList]
    have frame_eq : frameOf controllerSpec =
        ⟨"src/presentation", "Presentation", [], ["Controllers"], [""]⟩ := rfl
    simp [frame_eq, Frame.site, Site.space, joined, controllerClass, String.toList_append]
  have className_eq : site.className = requestName controllerSpec invocation := by
    rw [site_eq]
    exact String.append_empty
  have handed : registration? root controllerSpec (requestOf controllerSpec invocation settings) = some _ :=
    (registration?_requestOf_eq_some_iff known settings).2 ⟨rfl, real, rfl⟩
  obtain ⟨file, complete_eq⟩ := exists_complete_eq handed
  dsimp only at complete_eq
  rw [fullName_eq, className_eq]
  exact ⟨compositionFile root (nameOf invocation.options "module"), file, complete_eq⟩

/-- If the name of a prepared request and the names in the place of its classes consist of word
characters, its artifacts are made, each declares a class or trait at whose path it is, and a controller
is handed over to be registered under the full name that its file declares. -/
theorem classes_are_lookedFor {root : Path} {invocation : Invocation} {workspace next : Workspace}
    (known : spec ∈ catalogue)
    (prepared : exec (prepare root spec invocation) workspace = (.ok request, next))
    (named : IsName request.name.toList)
    (placed : ∀ name ∈ placeNames spec request, IsName name.toList) :
    ∃ artifacts, spec.provide request = .ok artifacts ∧ artifacts ≠ [] ∧
      ∀ artifact ∈ artifacts, ∃ space className,
        namespaceOf? artifact.content = some space ∧
        declaredName? artifact.content = some className ∧
        IsLookedForAt (space ++ '\\' :: className) artifact.pathText ∧
        (spec.registers = true → request.isDryRun = false →
          ∃ path file, complete root spec request = (do
            let outcome ← registerFile path (String.ofList (space ++ '\\' :: className))
              (String.ofList className)
            reportOutcome file outcome
            advise spec request)) := by
  obtain ⟨settings, rfl⟩ := exists_requestOf prepared
  have supplies := supplies_requestOf known invocation settings
  have isJoined := isJoined_requestOf known invocation settings
  obtain ⟨artifacts, provided, filled⟩ := exists_provided known supplies isJoined named placed
  refine ⟨artifacts, provided, filled, fun artifact member => ?_⟩
  obtain ⟨suffix, listed, madeFor⟩ := exists_isMadeFor known supplies isJoined provided artifact member
  have siteNamed := isNamed_site known named placed listed
  have space_eq := madeFor.space_eq
  rw [siteNamed.takeWhile_space] at space_eq
  refine ⟨_, _, space_eq, madeFor.className_eq,
    siteNamed.isLookedForAt (siteNamed.pathText_eq madeFor), fun registers real => ?_⟩
  rw [String.ofList_toList]
  exact exists_complete_of_registers known registers real listed rfl

/-- The controller that is asked for in the module `Shop` is where it is looked for. -/
theorem classes_are_lookedFor_addUser :
    controllerSpec ∈ catalogue ∧ ∃ request next,
      exec (prepare ⟨.relative, []⟩ controllerSpec addUser) shopWorkspace = (.ok request, next) ∧
      IsName request.name.toList ∧
      (∀ name ∈ placeNames controllerSpec request, IsName name.toList) ∧
      ∃ artifacts, controllerSpec.provide request = .ok artifacts ∧ artifacts ≠ [] ∧
        ∀ artifact ∈ artifacts, ∃ space className,
          namespaceOf? artifact.content = some space ∧
          declaredName? artifact.content = some className ∧
          IsLookedForAt (space ++ '\\' :: className) artifact.pathText := by
  have prepares : (exec (prepare ⟨.relative, []⟩ controllerSpec addUser) shopWorkspace).1.isOk =
      true := by
    decide +kernel
  obtain ⟨request, next, prepared⟩ := exists_exec_eq_ok prepares
  obtain ⟨settings, request_eq⟩ := exists_requestOf prepared
  have named : IsName request.name.toList := by
    rw [request_eq, name_requestOf]
    decide +kernel
  have placed : ∀ name ∈ placeNames controllerSpec request, IsName name.toList := by
    rw [request_eq, placeNames_controller]
    decide +kernel
  obtain ⟨artifacts, provided, filled, classes⟩ :=
    classes_are_lookedFor controllerSpec_mem prepared named placed
  refine ⟨controllerSpec_mem, request, next, prepared, named, placed, artifacts, provided, filled, ?_⟩
  intro artifact member
  obtain ⟨space, className, space_eq, className_eq, lookedFor, -⟩ := classes artifact member
  exact ⟨space, className, space_eq, className_eq, lookedFor⟩

end Scaffold.Generator
