import Scaffold.Proofs.Generator.Refusal
import Scaffold.Proofs.Text.EditDistance
import Scaffold.Proofs.Text.WordCase

/-!
# Modules that are suggested

A module that is not there is answered with the modules whose names are near to it, and with all
modules if no name is. Which names are near is told by edits and not by the distance that is
computed. The lists are in code point order and hold each module once, so they are settled by
which modules they hold.
-/

set_option autoImplicit false

namespace Scaffold.Generator

variable {disk : Disk} {workspace : Workspace} {root : Path} {module : String}

/-- Whether a name is that of a module: of a directory in the presentation directory that is not
hidden. -/
def HasModule (disk : Disk) (root : Path) (name : String) : Prop :=
  isHidden name = false ∧ (moduleRoot root).hasNull = false ∧
    ∃ place, disk.placeOf (moduleRoot root) = .ok place ∧
      disk.tree.item? place = some .directory ∧
      disk.tree.item? (place ++ [name]) = some .directory

/-- Whether at most three edits turn a text into a name, or into what stands before `api` in the
name, all in lower case. -/
inductive IsNear (attempted name : String) : Prop where
  | whole {count : Nat} : count ≤ 3 →
      Text.EditsTo count (Text.lower attempted.toList) (Text.lower name.toList) →
      IsNear attempted name
  | stem {count : Nat} {stem : List Char} : stem ≠ [] →
      Text.lower name.toList = stem ++ "api".toList → count ≤ 3 →
      Text.EditsTo count (Text.lower attempted.toList) stem → IsNear attempted name

theorem moduleDistance_le_iff {attempted name : String} :
    moduleDistance attempted name ≤ suggestionLimit ↔ IsNear attempted name := by
  have left := Text.leftWithout_stripSuffix (Text.lowerCase name) moduleSuffix
  have candidate_eq : (Text.lowerCase name).toList = Text.lower name.toList := String.toList_ofList
  rw [candidate_eq] at left
  have either : moduleDistance attempted name ≤ suggestionLimit ↔
      (∃ count ≤ 3, Text.EditsTo count (Text.lower attempted.toList) (Text.lower name.toList)) ∨
      ∃ count ≤ 3, Text.EditsTo count (Text.lower attempted.toList)
        (Text.stripSuffix (Text.lowerCase name) moduleSuffix).toList := by
    rw [← Text.editDistance_le_iff, ← Text.editDistance_le_iff, ← candidate_eq]
    exact Std.min_le
  rw [either]
  generalize (Text.stripSuffix (Text.lowerCase name) moduleSuffix).toList = remains at left ⊢
  constructor
  · rintro (⟨count, few, edits⟩ | ⟨count, few, edits⟩)
    · exact .whole few edits
    · generalize lowered : Text.lower name.toList = candidate at left
      cases left with
      | whole => exact .whole few (lowered ▸ edits)
      | stem filled => exact .stem filled lowered few edits
  · intro near
    cases near with
    | whole few edits => exact .inl ⟨_, few, edits⟩
    | stem filled ends few edits =>
      rw [ends] at left
      exact .inr ⟨_, few, left.eq_stem filled ▸ edits⟩

/-- What is suggested for a module that is not there, with the modules of the project and those that
are near. -/
structure Suggests (disk : Disk) (root : Path) (attempted : String)
    (modules near suggestions : List String) : Prop where
  modulesOrdered : modules.Pairwise (· < ·)
  mem_modules : ∀ name, name ∈ modules ↔ HasModule disk root name
  nearOrdered : near.Pairwise (· < ·)
  mem_near : ∀ name, name ∈ near ↔ HasModule disk root name ∧ IsNear attempted name
  lines : suggestions =
    (if near ≠ [] then ["Did you mean: " ++ ", ".intercalate near ++ "?"]
      else if modules ≠ [] then ["Available modules: " ++ ", ".intercalate modules]
      else []) ++ ["Create the module first: spatialgen make:module " ++ attempted]
  absent : attempted ∉ modules

theorem pairwise_modulesOn (disk : Disk) (root : Path) :
    (modulesOn disk root).Pairwise (· < ·) := by
  unfold modulesOn
  split
  · exact (disk.pairwise_directoriesIn _).filter _
  · exact .nil

theorem suggests_unknownModule (disk : Disk) (absent : module ∉ modulesOn disk root) :
    Suggests disk root module (modulesOn disk root) (similarOn disk root module)
      (unknownModule disk root module).suggestions where
  modulesOrdered := pairwise_modulesOn disk root
  mem_modules name := mem_modulesOn_iff
  nearOrdered := (pairwise_modulesOn disk root).filter _
  mem_near name := by
    rw [similarOn, List.mem_filter, decide_eq_true_eq, moduleDistance_le_iff, mem_modulesOn_iff]
    rfl
  lines := by
    unfold unknownModule Refusal.suggestions moduleHint
    cases similarOn disk root module with
    | nil =>
      cases modulesOn disk root <;> rfl
    | cons name near => rfl
  absent := absent

theorem not_mem_modulesOn_of_astray (wellNamed : workspace.disk.tree.WellNamed)
    (astray : ¬LeadsToDirectory root workspace module) :
    module ∉ modulesOn workspace.disk root := by
  intro member
  exact astray ((mem_modulesOn_iff_look wellNamed (isModuleName_of_mem wellNamed member)).1 member)

/-- A module that is refused as unknown is answered with one line that names all modules near to it
and no others, or if there are none with one that names all modules, and in both cases with how to
make it. The module itself is not among them. -/
theorem suggests_near_modules (wellNamed : workspace.disk.tree.WellNamed) {command : String}
    {options : Fields} {usage : Option String} {similar available : List String}
    (refuses : Refuses (resolveModule root command options usage) workspace
      (.unknownModule module similar available)) :
    module = nameOf options "module" ∧ ∃ modules near,
      Suggests workspace.disk root module modules near
        (Refusal.unknownModule module similar available).suggestions := by
  rcases of_refuses_resolveModule refuses with ⟨-, missing⟩ | ⟨-, refusesModule⟩
  · cases missing
  · obtain ⟨refusal_eq, astray⟩ := of_refuses_ensureModule refusesModule
    obtain rfl : module = nameOf options "module" := (Refusal.unknownModule.inj refusal_eq).1
    rw [refusal_eq]
    exact ⟨rfl, _, _,
      suggests_unknownModule workspace.disk (not_mem_modulesOn_of_astray wellNamed astray)⟩

/-- A workspace whose project has two modules with near names and one that is only called after the
suffix, beside a hidden directory. -/
def identityWorkspace : Workspace :=
  .start (.withDirectories ([["src"], ["src", "presentation"]] ++
    [".cache", "IdentityApi", "Billing", "api", "Identity"].map fun name =>
      ["src", "presentation", name]))

theorem suggests_near_modules_identity :
    identityWorkspace.disk.tree.WellNamed ∧
      Refuses (resolveModule ⟨.relative, []⟩ "make:query" [("module", .text "identty")] none)
        identityWorkspace (.unknownModule "Identty" ["Identity", "IdentityApi"] []) ∧
      ∃ modules near, Suggests identityWorkspace.disk ⟨.relative, []⟩ "Identty" modules near
        ["Did you mean: Identity, IdentityApi?",
          "Create the module first: spatialgen make:module Identty"] := by
  have wellNamed : identityWorkspace.disk.tree.WellNamed :=
    Tree.wellNamed_of_entries (by decide +kernel)
  have given : isGiven [("module", .text "identty")] "module" = true := by decide +kernel
  have module_eq : nameOf [("module", .text "identty")] "module" = "Identty" := by decide +kernel
  have absent : identityWorkspace.disk.look ((moduleRoot ⟨.relative, []⟩).child "Identty") =
      .ok none := by decide +kernel
  have above : identityWorkspace.disk.look (moduleRoot ⟨.relative, []⟩) =
      .ok (some .directory) := by decide +kernel
  have led : identityWorkspace.disk.placeOf (moduleRoot ⟨.relative, []⟩) =
      .ok ["src", "presentation"] := by decide +kernel
  have sorted : identityWorkspace.disk.directoriesIn ["src", "presentation"] =
      [".cache", "Billing", "Identity", "IdentityApi", "api"] := by
    refine List.Perm.eq_of_pairwise ?_
      (identityWorkspace.disk.pairwise_directoriesIn _) (by decide +kernel)
      ((List.mergeSort_perm _ _).trans (by decide +kernel))
    intro left right _ _ below above
    exact absurd (Std.lt_trans below above) Std.lt_irrefl
  have listed : modulesOn identityWorkspace.disk ⟨.relative, []⟩ =
      ["Billing", "Identity", "IdentityApi", "api"] := by
    unfold modulesOn
    rw [above, led]
    dsimp only
    rw [sorted]
    decide +kernel
  have similar : similarOn identityWorkspace.disk ⟨.relative, []⟩ "Identty" =
      ["Identity", "IdentityApi"] := by
    rw [similarOn, listed]
    decide +kernel
  have refuses : Refuses
      (resolveModule ⟨.relative, []⟩ "make:query" [("module", .text "identty")] none)
      identityWorkspace (.unknownModule "Identty" ["Identity", "IdentityApi"] []) := by
    rw [Refuses, resolveModule, if_pos given, module_eq, exec_bind, exec_ensureModule, absent]
    simp [above, unknownModule, similar]
  exact ⟨wellNamed, refuses, (suggests_near_modules wellNamed refuses).2⟩

end Scaffold.Generator
