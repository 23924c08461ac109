import Scaffold.Generator.Modules
import Scaffold.Proofs.Disk.Lexical
import Scaffold.Proofs.Disk.Listing
import Scaffold.Proofs.Disk.Looking
import Scaffold.Proofs.Disk.Rooted
import Scaffold.Proofs.Workspace

/-!
# Modules that are given and modules that are listed

A module is accepted if its path leads to a directory, and listed if its directory is found under
its name. For the name of a single entry that is not hidden both come to the same. Any other text
is never listed, but it is accepted wherever its path happens to lead to a directory.
-/

set_option autoImplicit false

namespace Scaffold

namespace Generator

variable {workspace : Workspace} {root : Path}

/-! ## Looking at directories -/

theorem exec_onDisk {α : Type} (action : DiskAction DiskFault α) (workspace : Workspace) :
    exec (onDisk action) workspace =
      ((exec action workspace.disk).1.mapError fun fault => .mishap (.disk fault),
        { workspace with disk := (exec action workspace.disk).2 }) := by
  rw [onDisk, WorkspaceAction.exec_onDisk, exec_adapt]
  cases exec action workspace.disk with
  | mk result disk => cases result <;> rfl

@[simp] theorem exec_refuse {α : Type} (refusal : Refusal) (workspace : Workspace) :
    exec (refuse refusal : Action α) workspace = (.error (.refused refusal), workspace) := rfl

theorem exec_isDirectory (path : Path) (workspace : Workspace) :
    exec (onDisk (DiskAction.isDirectory path)) workspace =
      match workspace.disk.look path with
      | .error fault => (.error (.mishap (.disk fault)), workspace)
      | .ok seen => (.ok (seen.any Item.isDirectory), workspace) := by
  rw [exec_onDisk, DiskAction.exec_isDirectory]
  cases workspace.disk.look path <;> rfl

/-! ## Listing -/

/-- The modules of a project on a disk that can tell what they are. -/
def modulesOn (disk : Disk) (root : Path) : List String :=
  match disk.look (moduleRoot root), disk.placeOf (moduleRoot root) with
  | .ok (some .directory), .ok place => (disk.directoriesIn place).filter (!isHidden ·)
  | _, _ => []

theorem exec_listModules (root : Path) (workspace : Workspace) :
    exec (listModules root) workspace =
      match workspace.disk.look (moduleRoot root) with
      | .error fault => (.error (.mishap (.disk fault)), workspace)
      | .ok _ => (.ok (modulesOn workspace.disk root), workspace) := by
  rw [listModules, exec_bind, exec_isDirectory]
  unfold modulesOn
  cases looked : workspace.disk.look (moduleRoot root) with
  | error fault => rfl
  | ok seen =>
    cases seen with
    | none => rfl
    | some item =>
      cases item with
      | file octets mode => rfl
      | directory =>
        obtain ⟨-, place, led, -⟩ := Disk.look_eq_ok_some_iff.1 looked
        simp only [Option.any_some, Item.isDirectory, if_true, exec_bind, exec_onDisk,
          DiskAction.exec_directoryNames led, led]
        rfl

theorem mem_modulesOn_iff {disk : Disk} {module : String} :
    module ∈ modulesOn disk root ↔
      isHidden module = false ∧ (moduleRoot root).hasNull = false ∧
        ∃ place, disk.placeOf (moduleRoot root) = .ok place ∧
          disk.tree.item? place = some .directory ∧
          disk.tree.item? (place ++ [module]) = some .directory := by
  unfold modulesOn
  constructor
  · intro member
    split at member
    · next place looked led =>
      obtain ⟨named, other, ledAlso, present⟩ := Disk.look_eq_ok_some_iff.1 looked
      rw [led, Except.ok.injEq] at ledAlso
      subst ledAlso
      rw [List.mem_filter, Disk.mem_directoriesIn_iff] at member
      exact ⟨by simpa using member.2, named, place, led, present, member.1⟩
    · cases member
  · rintro ⟨visible, named, place, led, present, there⟩
    rw [Disk.look_eq_ok_some_iff.2 ⟨named, place, led, present⟩, led]
    rw [List.mem_filter, Disk.mem_directoriesIn_iff]
    exact ⟨there, by simp [visible]⟩

/-- Whether a text can be listed as a module: it is the name of a single entry and not hidden. -/
structure IsModuleName (module : String) : Prop where
  filled : module ≠ ""
  visible : isHidden module = false
  single : '/' ∉ module.toList

namespace IsModuleName

variable {module : String}

theorem ne_self (named : IsModuleName module) : module ≠ "." := by
  rintro rfl
  exact absurd named.visible (by decide +kernel)

theorem ne_parent (named : IsModuleName module) : module ≠ ".." := by
  rintro rfl
  exact absurd named.visible (by decide +kernel)

theorem child_eq (named : IsModuleName module) (path : Path) :
    path.child module = ⟨path.anchor, path.parts ++ [module]⟩ :=
  path.child_of_isPart ⟨named.filled, named.ne_self, named.single⟩

end IsModuleName

theorem isModuleName_of_mem {disk : Disk} {module : String} (wellNamed : disk.tree.WellNamed)
    (member : module ∈ modulesOn disk root) : IsModuleName module := by
  obtain ⟨visible, -, place, -, -, there⟩ := mem_modulesOn_iff.1 member
  have entry := wellNamed _ _ there module (by simp)
  exact ⟨entry.filled, visible, entry.single⟩

/-- A module with a proper name is listed if and only if its path leads to a directory. -/
theorem mem_modulesOn_iff_look {disk : Disk} {module : String} (wellNamed : disk.tree.WellNamed)
    (named : IsModuleName module) :
    module ∈ modulesOn disk root ↔
      disk.look ((moduleRoot root).child module) = .ok (some .directory) := by
  have null_eq : Path.hasNull ⟨(moduleRoot root).anchor, (moduleRoot root).parts ++ [module]⟩ =
      ((moduleRoot root).hasNull || module.toList.contains '\x00') := by
    simp [Path.hasNull]
  rw [mem_modulesOn_iff, named.child_eq, Disk.look_eq_ok_some_iff, null_eq, Bool.or_eq_false_iff]
  constructor
  · rintro ⟨-, unbroken, place, led, present, there⟩
    have entry := wellNamed _ _ there module (by simp)
    refine ⟨⟨unbroken, by simpa using entry.noNull⟩, place ++ [module], ?_, there⟩
    have goes : disk.placeOf ⟨(moduleRoot root).anchor, (moduleRoot root).parts ++ [module]⟩ =
        Disk.walk disk.tree place [module] := Disk.placeOf_append led [module]
    rw [goes]
    exact Disk.walk_cons_eq_ok_iff.2 ⟨present, .inr ⟨named.ne_parent, entry.short, rfl⟩⟩
  · rintro ⟨⟨unbroken, -⟩, target, led, there⟩
    obtain ⟨place, ledAbove, leads⟩ := Disk.exists_walk_of_append led
    obtain ⟨present, ⟨up, -⟩ | ⟨-, -, arrived⟩⟩ := Disk.walk_cons_eq_ok_iff.1 leads
    · exact absurd up named.ne_parent
    · cases arrived
      exact ⟨named.visible, unbroken, place, ledAbove, present, there⟩

/-! ## Accepting a module -/

/-- The modules with a name similar to a text on a disk. -/
def similarOn (disk : Disk) (root : Path) (attempted : String) : List String :=
  (modulesOn disk root).filter fun module => moduleDistance attempted module ≤ suggestionLimit

theorem exec_suggestModules (root : Path) (attempted : String) (workspace : Workspace) :
    exec (suggestModules root attempted) workspace =
      match workspace.disk.look (moduleRoot root) with
      | .error fault => (.error (.mishap (.disk fault)), workspace)
      | .ok _ => (.ok (similarOn workspace.disk root attempted), workspace) := by
  rw [suggestModules, exec_bind, exec_listModules]
  cases workspace.disk.look (moduleRoot root) <;> rfl

/-- What is said of a module that is not there. -/
def unknownModule (disk : Disk) (root : Path) (module : String) : Refusal :=
  .unknownModule module (similarOn disk root module)
    (if (similarOn disk root module).isEmpty then modulesOn disk root else [])

theorem exec_ensureModule (root : Path) (module : String) (workspace : Workspace) :
    exec (ensureModule root module) workspace =
      match workspace.disk.look ((moduleRoot root).child module) with
      | .error fault => (.error (.mishap (.disk fault)), workspace)
      | .ok seen =>
        if seen.any Item.isDirectory then (.ok (), workspace)
        else
          match workspace.disk.look (moduleRoot root) with
          | .error fault => (.error (.mishap (.disk fault)), workspace)
          | .ok _ =>
            (.error (.refused (unknownModule workspace.disk root module)), workspace) := by
  rw [ensureModule, exec_bind, exec_isDirectory]
  cases workspace.disk.look ((moduleRoot root).child module) with
  | error fault => rfl
  | ok seen =>
    cases isDirectory : Option.any Item.isDirectory seen with
    | true => simp [isDirectory]
    | false =>
      simp only [isDirectory, Bool.false_eq_true, if_false, exec_bind, exec_suggestModules]
      cases looked : workspace.disk.look (moduleRoot root) with
      | error fault => rfl
      | ok above =>
        cases similar : (similarOn workspace.disk root module).isEmpty with
        | true => simp [exec_listModules, looked, similar, unknownModule]
        | false => simp [similar, unknownModule]

/-! ## Accepted and listed -/

/-- Whether a text is among the modules that are listed. -/
def IsListed (root : Path) (workspace : Workspace) (module : String) : Prop :=
  ∃ modules, exec (listModules root) workspace = (.ok modules, workspace) ∧ module ∈ modules

/-- Whether the path of a module leads to a directory. -/
def LeadsToDirectory (root : Path) (workspace : Workspace) (module : String) : Prop :=
  workspace.disk.look ((moduleRoot root).child module) = .ok (some .directory)

theorem isListed_iff {module : String} :
    IsListed root workspace module ↔ module ∈ modulesOn workspace.disk root := by
  unfold IsListed
  rw [exec_listModules]
  constructor
  · rintro ⟨modules, listed, member⟩
    cases looked : workspace.disk.look (moduleRoot root) with
    | error fault => simp [looked] at listed
    | ok seen =>
      simp only [looked, Prod.mk.injEq, Except.ok.injEq, and_true] at listed
      rwa [listed]
  · intro member
    obtain ⟨-, named, place, led, present, -⟩ := mem_modulesOn_iff.1 member
    rw [Disk.look_eq_ok_some_iff.2 ⟨named, place, led, present⟩]
    exact ⟨_, rfl, member⟩

theorem exec_ensureModule_eq_ok_iff {module : String} {done : Unit} {final : Workspace} :
    exec (ensureModule root module) workspace = (.ok done, final) ↔
      final = workspace ∧ LeadsToDirectory root workspace module := by
  unfold LeadsToDirectory
  rw [exec_ensureModule]
  cases workspace.disk.look ((moduleRoot root).child module) with
  | error fault => simp
  | ok seen =>
    cases seen with
    | none => cases workspace.disk.look (moduleRoot root) <;> simp
    | some item =>
      cases item with
      | directory => simp [Item.isDirectory, eq_comm]
      | file octets mode =>
        cases workspace.disk.look (moduleRoot root) <;> simp [Item.isDirectory]

theorem exec_resolveModule_eq_ok_iff {command module : String} {options : Fields}
    {usage : Option String} {final : Workspace} :
    exec (resolveModule root command options usage) workspace = (.ok module, final) ↔
      final = workspace ∧ isGiven options "module" = true ∧ module = nameOf options "module" ∧
        LeadsToDirectory root workspace module := by
  unfold resolveModule
  cases given : isGiven options "module" with
  | false =>
    simp only [Bool.false_eq_true, if_false, exec_bind_eq_ok_iff, exec_refuse, Prod.mk.injEq,
      reduceCtorEq, false_and, and_false, exists_false]
  | true =>
    simp only [if_true, exec_bind_eq_ok_iff, exec_ensureModule_eq_ok_iff, exec_pure,
      Prod.mk.injEq, Except.ok.injEq]
    constructor
    · rintro ⟨done, middle, ⟨rfl, leads⟩, rfl, rfl⟩
      exact ⟨rfl, trivial, rfl, leads⟩
    · rintro ⟨rfl, -, rfl, leads⟩
      exact ⟨(), _, ⟨rfl, leads⟩, rfl, rfl⟩

theorem exec_resolveModuleAndEntity_eq_ok_iff {command module entity : String} {options : Fields}
    {final : Workspace} :
    exec (resolveModuleAndEntity root command options) workspace = (.ok (module, entity), final) ↔
      isGiven options "entity" = true ∧ entity = nameOf options "entity" ∧
        exec (resolveModule root command options none) workspace = (.ok module, final) := by
  rw [exec_resolveModule_eq_ok_iff]
  unfold resolveModuleAndEntity
  cases given : isGiven options "module" with
  | false =>
    simp only [Bool.false_and, Bool.false_eq_true, if_false, exec_bind_eq_ok_iff, exec_refuse,
      Prod.mk.injEq, reduceCtorEq, false_and, and_false, exists_false]
  | true =>
    cases entityGiven : isGiven options "entity" with
    | false =>
      simp only [Bool.and_false, Bool.false_eq_true, if_false, if_true, exec_bind_eq_ok_iff,
        exec_refuse, Prod.mk.injEq, reduceCtorEq, false_and, and_false, exists_false]
    | true =>
      simp only [Bool.and_self, if_true, exec_bind_eq_ok_iff, exec_ensureModule_eq_ok_iff,
        exec_pure, Prod.mk.injEq, Except.ok.injEq]
      constructor
      · rintro ⟨done, middle, ⟨rfl, leads⟩, ⟨rfl, rfl⟩, rfl⟩
        exact ⟨trivial, rfl, rfl, trivial, rfl, leads⟩
      · rintro ⟨-, rfl, rfl, -, rfl, leads⟩
        exact ⟨(), _, ⟨rfl, leads⟩, ⟨rfl, rfl⟩, rfl⟩

/-- Whether a text is accepted although no module is listed under it, since it is not the name of
a single entry or is hidden. -/
def IsAcceptedUnlisted (root : Path) (workspace : Workspace) (module : String) : Prop :=
  ¬IsModuleName module ∧ LeadsToDirectory root workspace module

theorem leadsToDirectory_iff (wellNamed : workspace.disk.tree.WellNamed) {module : String} :
    LeadsToDirectory root workspace module ↔
      IsListed root workspace module ∨ IsAcceptedUnlisted root workspace module := by
  unfold IsAcceptedUnlisted
  rw [isListed_iff]
  by_cases named : IsModuleName module
  · rw [mem_modulesOn_iff_look wellNamed named]
    simp only [named, not_true_eq_false, false_and, or_false]
    rfl
  · have unlisted : module ∉ modulesOn workspace.disk root :=
      fun member => named (isModuleName_of_mem wellNamed member)
    simp only [named, unlisted, not_false_eq_true, true_and, false_or]

/-- The module that is given is accepted if it is listed, and besides only if it is no proper name
of a module and its path leads to a directory all the same. It is then what its words join to, alone
or with an entity that is given. What is listed always has a proper name. -/
theorem resolves_iff_listed_or_unlisted (wellNamed : workspace.disk.tree.WellNamed) (root : Path)
    (command : String) (options : Fields) (usage : Option String) :
    (∀ module, (∃ final,
        exec (resolveModule root command options usage) workspace = (.ok module, final)) ↔
      isGiven options "module" = true ∧ module = nameOf options "module" ∧
        (IsListed root workspace module ∨ IsAcceptedUnlisted root workspace module)) ∧
    (∀ module entity, (∃ final,
        exec (resolveModuleAndEntity root command options) workspace =
          (.ok (module, entity), final)) ↔
      isGiven options "entity" = true ∧ entity = nameOf options "entity" ∧
        isGiven options "module" = true ∧ module = nameOf options "module" ∧
        (IsListed root workspace module ∨ IsAcceptedUnlisted root workspace module)) ∧
    ∀ module, IsListed root workspace module → IsModuleName module := by
  refine ⟨fun module => ?_, fun module entity => ?_, fun module listed => ?_⟩
  · rw [← leadsToDirectory_iff wellNamed]
    simp only [exec_resolveModule_eq_ok_iff, exists_eq_left]
  · rw [← leadsToDirectory_iff wellNamed]
    simp only [exec_resolveModuleAndEntity_eq_ok_iff, exec_resolveModule_eq_ok_iff,
      exists_and_left, exists_eq_left]
  · exact isModuleName_of_mem wellNamed (isListed_iff.1 listed)

/-- A workspace whose project has the module `Shop`, in the directory where paths start. -/
def shopWorkspace : Workspace :=
  .start (.withDirectories [["src"], ["src", "presentation"], ["src", "presentation", "Shop"]])

/-- A controller is asked for in the module `Shop`. -/
def addUser : Invocation :=
  ⟨["user"], [("module", .text "shop")]⟩

theorem wellNamed_shopWorkspace : shopWorkspace.disk.tree.WellNamed :=
  Tree.wellNamed_of_entries (by decide +kernel)

theorem sound_shopWorkspace : shopWorkspace.disk.Sound :=
  ⟨Tree.sound_of_entries (by decide +kernel), rfl⟩

theorem resolves_shop :
    shopWorkspace.disk.tree.WellNamed ∧
      ∃ final, exec (resolveModule ⟨.relative, []⟩ "make:controller" [("module", .text "shop")] none)
        shopWorkspace = (.ok "Shop", final) := by
  have resolves := resolves_iff_listed_or_unlisted wellNamed_shopWorkspace ⟨.relative, []⟩
    "make:controller" [("module", .text "shop")] none
  refine ⟨wellNamed_shopWorkspace, (resolves.1 "Shop").2 ⟨by decide +kernel, by decide +kernel, ?_⟩⟩
  exact (leadsToDirectory_iff wellNamed_shopWorkspace).1 (by
    unfold LeadsToDirectory
    decide +kernel)

/-- A hyphen is accepted as a module without a name. -/
theorem resolves_unlisted_hyphen :
    exec (resolveModule ⟨.relative, []⟩ "make:controller" [("module", .text "-")] none)
        shopWorkspace = (.ok "", shopWorkspace) ∧
      ¬IsListed ⟨.relative, []⟩ shopWorkspace "" := by
  constructor
  · refine exec_resolveModule_eq_ok_iff.2 ⟨rfl, by decide +kernel, by decide +kernel, ?_⟩
    unfold LeadsToDirectory
    decide +kernel
  · intro listed
    exact (isModuleName_of_mem wellNamed_shopWorkspace (isListed_iff.1 listed)).filled rfl

end Generator

end Scaffold
