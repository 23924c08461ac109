import Scaffold.Proofs.Generator.Written

/-!
# Files below the root of a project

Whatever a run creates is below the root of the project as its path is written. So is the composition
file that it hands over, unless the module is given as a path from the root of the disk: the path of an
artifact is checked before it is joined to the root of the project, that of a composition file is not.
-/

set_option autoImplicit false

namespace Scaffold

namespace Path

/-- Backslashes that count as slashes make no component that goes up one that does not. -/
theorem up_mem_partsOf_slash {text : List Char} (up : ".." ∈ partsOf text) :
    ".." ∈ partsOf (text.map Artifact.slash) := by
  induction text using slashInduction with
  | single text unslashed =>
    obtain rfl := eq_of_up_mem_partsOf unslashed up
    exact up
  | several before after ihBefore ihAfter =>
    have slash_eq : Artifact.slash '/' = '/' := rfl
    rw [partsOf_append_cons_slash, List.mem_append] at up
    rw [List.map_append, List.map_cons, slash_eq, partsOf_append_cons_slash, List.mem_append]
    exact up.imp ihBefore ihAfter

end Path

namespace Generator

variable {root : Path} {spec : Spec} {invocation : Invocation} {workspace : Workspace}
  {request : Request}

/-! ## Artifacts -/

/-- The artifacts of a generator are made below the root of the project. -/
theorem isBelow_target (known : spec ∈ catalogue) (supplies : request.Supplies spec)
    {artifacts : List Artifact} (provided : spec.provide request = .ok artifacts)
    {artifact : Artifact} (member : artifact ∈ artifacts) (root : Path) :
    (artifact.target root).IsBelow root := by
  obtain ⟨rest, parts_eq⟩ := exists_parts_of_provide known supplies provided artifact member
  exact Path.isBelow_of_plain root (parts_eq ▸ List.cons_ne_nil _ _)
    (plain_of_provide known supplies provided artifact member)

/-! ## Composition files -/

/-- The module of a controller that was made does not go up. -/
theorem plain_of_provideController {settings : Settings} {artifacts : List Artifact}
    (provided : provideController (requestOf controllerSpec invocation settings) = .ok artifacts) :
    ".." ∉ Path.partsOf (nameOf invocation.options "module").toList := by
  intro up
  obtain ⟨_, _, _, drafted⟩ := exists_drafts_controller
    (supplies_requestOf controllerSpec_mem invocation settings)
    (module_requestOf invocation settings)
  rw [drafted.provide_eq] at provided
  rcases Draft.mapM_artifact_cases drafted.bound drafted.below with
    ⟨_, -, plain⟩ | ⟨before, draft, after, -, -, -, failed⟩
  · refine plain _ (List.mem_singleton_self _) ?_
    -- The module stands between two slashes in the path of the controller.
    have split : ("src/presentation/" ++ nameOf invocation.options "module" ++ "/Controllers/" ++
        (requestOf controllerSpec invocation settings).name ++ ".php").toList =
          "src/presentation".toList ++ '/' :: ((nameOf invocation.options "module").toList ++
            '/' :: ("Controllers/".toList ++ (requestName controllerSpec invocation).toList ++
              ".php".toList)) := by
      simp [String.toList_append]
    have slash_eq : Artifact.slash '/' = '/' := rfl
    rw [Draft.GoesUp, Draft.parts, path_controllerDraft, split, List.map_append, List.map_cons, List.map_append,
      List.map_cons, slash_eq, Path.partsOf_append_cons_slash, Path.partsOf_append_cons_slash]
    exact List.mem_append_right _ (List.mem_append_left _ (Path.up_mem_partsOf_slash up))
  · rw [failed] at provided
    cases provided

theorem isAbsolute_moduleFile (module : String) :
    (Path.ofString (moduleFile module)).isAbsolute = (Path.ofString module).isAbsolute := by
  have head_eq : (moduleFile module).toList.head? = some '/' ↔ module.toList.head? = some '/' := by
    rw [moduleFile, String.toList_append, List.head?_append]
    cases module.toList.head? <;> simp
  have same : Path.anchorOf (moduleFile module).toList = .relative ↔
      Path.anchorOf module.toList = .relative := by
    rw [Path.anchorOf_eq_relative_iff, Path.anchorOf_eq_relative_iff, ne_eq, ne_eq, head_eq]
  rw [Bool.eq_iff_iff]
  simp only [Path.isAbsolute, Path.ofString, bne_iff_ne, ne_eq, same]

/-- A composition file is found from the root of the project, or from that of the disk if its module
is. -/
theorem compositionFile_eq (root : Path) (module : String) :
    compositionFile root module =
      if (Path.ofString module).isAbsolute then Path.ofString (moduleFile module)
      else ⟨root.anchor, root.parts ++ (["src", "presentation"] ++
        (Path.partsOf module.toList ++ Path.partsOf (moduleFile module).toList))⟩ := by
  have moduleRoot_eq : moduleRoot root = ⟨root.anchor, root.parts ++ ["src", "presentation"]⟩ := by
    have first : root.child "src" = ⟨root.anchor, root.parts ++ ["src"]⟩ := rfl
    have second : Path.child ⟨root.anchor, root.parts ++ ["src"]⟩ "presentation" =
        ⟨root.anchor, root.parts ++ ["src"] ++ ["presentation"]⟩ := rfl
    rw [moduleRoot, Path.descend, moduleDirectory, List.foldl_cons, List.foldl_cons, first, second]
    simp
  have join_absolute (path other : Path) (absolute : other.isAbsolute = true) :
      path.join other = other := by
    rw [Path.isAbsolute, bne_iff_ne] at absolute
    rw [Path.join, if_neg absolute]
  have join_relative (path other : Path) (relative : other.isAbsolute = false) :
      path.join other = ⟨path.anchor, path.parts ++ other.parts⟩ := by
    rw [Path.isAbsolute, bne_eq_false_iff_eq] at relative
    rw [Path.join, if_pos relative]
  have file := isAbsolute_moduleFile module
  rw [compositionFile, Path.child, Path.child]
  cases absolute : (Path.ofString module).isAbsolute with
  | true => rw [if_pos rfl, join_absolute _ _ (file.trans absolute)]
  | false =>
    rw [if_neg Bool.false_ne_true, join_relative _ _ (file.trans absolute),
      join_relative _ _ absolute, moduleRoot_eq]
    simp [Path.ofString]

/-- A composition file that is handed over is below the root of the project if its module is relative;
if not, it is the module itself that decides. -/
theorem isBelow_path_iff (known : spec ∈ catalogue) {registration : Registration}
    (handed : HandsOver root spec invocation workspace registration) :
    registration.path.IsBelow root ↔
      ((Path.ofString (nameOf invocation.options "module")).isAbsolute = true →
        (Path.ofString (moduleFile (nameOf invocation.options "module"))).IsBelow root) := by
  obtain ⟨rfl, -, rfl, request, made, generated⟩ := (handsOver_iff known).1 handed
  obtain ⟨settings, artifacts, -, -, -, provided, -⟩ := exists_plan_of_generate generated
  have plain := plain_of_provideController provided
  have plainFile : ".." ∉ Path.partsOf (moduleFile (nameOf invocation.options "module")).toList := by
    intro up
    rw [moduleFile, String.toList_append] at up
    exact plain (Path.up_mem_partsOf_of_append (by decide) (by decide) up)
  rw [compositionFile_eq]
  cases (Path.ofString (nameOf invocation.options "module")).isAbsolute with
  | true => simp
  | false =>
    simp only [Bool.false_eq_true, if_false, false_implies, iff_true]
    exact Path.isBelow_of_plain root (by simp) (by simp [plain, plainFile])

/-! ## Runs -/

/-- A run changes no file but those that it writes; each of them is below the root of the project or is
the composition file that it hands over, and this one is below the root in all cases but that of a
module that is given from the root of the disk and leads elsewhere. -/
theorem written_isBelow_root (known : spec ∈ catalogue) (sound : workspace.disk.Sound) (root : Path)
    (invocation : Invocation) :
    (∀ place octets mode,
      (exec (run root spec invocation) workspace).2.disk.tree.item? place =
          some (.file octets mode) →
        workspace.disk.tree.item? place = some (.file octets mode) ∨
          ∃ path, IsWritten root spec invocation workspace path octets ∧
            (exec (run root spec invocation) workspace).2.disk.placeOf path = .ok place) ∧
    (∀ path octets, IsWritten root spec invocation workspace path octets →
      path.IsBelow root ∨ ∃ registration,
        HandsOver root spec invocation workspace registration ∧ registration.path = path) ∧
    ∀ registration, HandsOver root spec invocation workspace registration →
      (registration.path.IsBelow root ↔
        ((Path.ofString (nameOf invocation.options "module")).isAbsolute = true →
          (Path.ofString (moduleFile (nameOf invocation.options "module"))).IsBelow root)) := by
  refine ⟨(writesOnly_run root known invocation sound).file, ?_, fun _ => isBelow_path_iff known⟩
  intro path octets isWritten
  cases isWritten with
  | artifact planned member =>
    have plans := plans_plan root spec invocation workspace
    rw [planned] at plans
    cases plans with
    | @planned settings _ _ valid loaded provided =>
      exact .inl (isBelow_target known (supplies_requestOf known invocation settings) provided
        member root)
  | composition handed => exact .inr ⟨_, handed, rfl⟩

theorem written_isBelow_root_addUser :
    controllerSpec ∈ catalogue ∧ shopWorkspace.disk.Sound ∧
      HandsOver ⟨.relative, []⟩ controllerSpec addUser shopWorkspace
        ⟨⟨.relative, ["src", "presentation", "Shop", "ShopModule.php"]⟩,
          "Presentation\\Shop\\Controllers\\UserController", "UserController"⟩ ∧
      Path.IsBelow ⟨.relative, ["src", "presentation", "Shop", "ShopModule.php"]⟩
        ⟨.relative, []⟩ := by
  have generates : (exec (generate ⟨.relative, []⟩ controllerSpec addUser)
      shopWorkspace).1.isOk = true := by
    decide +kernel
  have handed : HandsOver ⟨.relative, []⟩ controllerSpec addUser shopWorkspace
      ⟨⟨.relative, ["src", "presentation", "Shop", "ShopModule.php"]⟩,
        "Presentation\\Shop\\Controllers\\UserController", "UserController"⟩ :=
    (handsOver_iff controllerSpec_mem).2 ⟨rfl, by decide +kernel, by decide +kernel,
      exists_exec_eq_ok generates⟩
  have confined := written_isBelow_root controllerSpec_mem sound_shopWorkspace ⟨.relative, []⟩ addUser
  refine ⟨controllerSpec_mem, sound_shopWorkspace, handed, (confined.2.2 _ handed).2 fun absolute => ?_⟩
  exact absurd absolute (by decide +kernel)

/-- A project in a home directory, beside a directory and a file at the root of the disk. -/
def strayWorkspace : Workspace :=
  .start { Disk.withDirectories [["home"], ["home", "shop"], ["home", "shop", "src"],
      ["home", "shop", "src", "presentation"], ["tmp"]] with
    tree := (Disk.withDirectories [["home"], ["home", "shop"], ["home", "shop", "src"],
      ["home", "shop", "src", "presentation"], ["tmp"]]).tree.put ["tmpModule.php"]
        (.file (Text.encode "use A\\B;\ndeclarations: [\n]\n") 0o644) }

/-- A controller for a module that is given from the root of the disk is registered in a file outside
the project. -/
theorem handsOver_outside_root :
    HandsOver ⟨.root, ["home", "shop"]⟩ controllerSpec ⟨["user"], [("module", .text "/tmp")]⟩
        strayWorkspace ⟨⟨.root, ["tmpModule.php"]⟩,
          "Presentation\\/tmp\\Controllers\\UserController", "UserController"⟩ ∧
      ¬Path.IsBelow ⟨.root, ["tmpModule.php"]⟩ ⟨.root, ["home", "shop"]⟩ ∧
      (exec (run ⟨.root, ["home", "shop"]⟩ controllerSpec ⟨["user"], [("module", .text "/tmp")]⟩)
        strayWorkspace).1.toOption = some 0 ∧
      (exec (run ⟨.root, ["home", "shop"]⟩ controllerSpec ⟨["user"], [("module", .text "/tmp")]⟩)
        strayWorkspace).2.disk.tree.item? ["tmpModule.php"] = some (.file (Text.encode
          ("use A\\B;\nuse Presentation\\/tmp\\Controllers\\UserController;\n" ++
            "declarations: [\n    UserController::class,\n]\n")) 0o644) := by
  have generates : (exec (generate ⟨.root, ["home", "shop"]⟩ controllerSpec
      ⟨["user"], [("module", .text "/tmp")]⟩) strayWorkspace).1.isOk = true := by
    decide +kernel
  refine ⟨(handsOver_iff controllerSpec_mem).2 ⟨rfl, by decide +kernel, by decide +kernel,
    exists_exec_eq_ok generates⟩, ?_, by decide +kernel, by decide +kernel⟩
  rintro ⟨names, -, -, same⟩
  exact absurd (List.cons.inj (congrArg Path.parts same)).1 (by decide)

end Generator

end Scaffold
