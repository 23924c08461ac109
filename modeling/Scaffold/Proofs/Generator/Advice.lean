import Scaffold.Proofs.Generator.Refusal
import Scaffold.Proofs.Text.WordCase

/-!
# Following what is advised

Refusals name modules that are listed. A listed module that is given as it is listed is accepted as
itself if its name is in Pascal case. What is given is joined in Pascal case before it is looked
for, so that under any other name another module is found or none.
-/

set_option autoImplicit false

namespace Scaffold.Generator

variable {workspace : Workspace} {root : Path} {command module : String} {usage : Option String}

/-- The options that give a module and nothing else. -/
def onlyModule (module : String) : Fields :=
  [("module", .text module)]

theorem nameOf_onlyModule (module : String) :
    nameOf (onlyModule module) "module" = Text.pascalCase module := rfl

theorem isGiven_onlyModule (module : String) :
    isGiven (onlyModule module) "module" = !Text.isAllBlank module.toList := rfl

/-- The modules that a refusal names. -/
def Refusal.advised : Refusal → List String
  | .unknownModule _ similar available => similar ++ available
  | .missingModule available _ => available
  | _ => []

theorem isListed_of_mem_unknownModule {attempted : String}
    (advised : module ∈ (unknownModule workspace.disk root attempted).advised) :
    IsListed root workspace module := by
  rw [isListed_iff]
  rcases List.mem_append.1 advised with similar | available
  · exact List.mem_of_mem_filter similar
  · split at available
    · exact available
    · cases available

theorem isListed_of_advised {options : Fields} {refusal : Refusal}
    (refuses : Refuses (resolveModule root command options usage) workspace refusal)
    (advised : module ∈ refusal.advised) : IsListed root workspace module := by
  unfold resolveModule at refuses
  cases given : isGiven options "module" with
  | false =>
    simp only [given, Bool.false_eq_true, if_false, refuses_bind_iff, not_refuses_listModules,
      false_or, refuses_refuse_iff] at refuses
    obtain ⟨modules, next, listed, rfl⟩ := refuses
    have kept : next = workspace := by
      rw [← OnlyLooks.listModules root workspace, listed]
    exact ⟨modules, kept ▸ listed, advised⟩
  | true =>
    simp only [given, if_true, refuses_bind_iff, not_refuses_pure, and_false, exists_false,
      or_false] at refuses
    obtain ⟨rfl, -⟩ := of_refuses_ensureModule refuses
    exact isListed_of_mem_unknownModule advised

theorem isGiven_of_isPascal (isPascal : Text.IsPascal module.toList) (filled : module ≠ "") :
    isGiven (onlyModule module) "module" = true := by
  rw [isGiven_onlyModule, Bool.not_eq_true', Bool.eq_false_iff, ne_eq, Text.isAllBlank_iff]
  intro blank
  apply filled
  apply String.toList_inj.1
  cases named : module.toList with
  | nil => rfl
  | cons first rest =>
    rw [named] at blank isPascal
    have separates := isPascal.joined first List.mem_cons_self
    rw [Text.isSeparator, blank first List.mem_cons_self, Bool.or_true] at separates
    cases separates

theorem pascalCase_eq_self_iff : Text.pascalCase module = module ↔ Text.IsPascal module.toList := by
  rw [← Text.pascal_eq_self_iff, ← String.toList_inj, Text.pascalCase, String.toList_ofList]

theorem exec_resolveModule_listed_iff (wellNamed : workspace.disk.tree.WellNamed)
    (listed : IsListed root workspace module) :
    exec (resolveModule root command (onlyModule module) usage) workspace =
        (.ok module, workspace) ↔ Text.IsPascal module.toList := by
  have member := isListed_iff.1 listed
  have named := isModuleName_of_mem wellNamed member
  have leads : LeadsToDirectory root workspace module :=
    (mem_modulesOn_iff_look wellNamed named).1 member
  rw [exec_resolveModule_eq_ok_iff, nameOf_onlyModule, eq_comm (a := module),
    pascalCase_eq_self_iff]
  constructor
  · intro ⟨_, _, isPascal, _⟩
    exact isPascal
  · intro isPascal
    exact ⟨rfl, isGiven_of_isPascal isPascal named.filled, isPascal, leads⟩

/-- Each module that a refusal names is listed. A listed module that is given as it is listed is
accepted as itself if and only if its name is in Pascal case, and whatever it is accepted as is its
Pascal case. -/
theorem listed_module_is_accepted_iff_isPascal (wellNamed : workspace.disk.tree.WellNamed) :
    (∀ options refusal, Refuses (resolveModule root command options usage) workspace refusal →
      ∀ module ∈ refusal.advised, IsListed root workspace module) ∧
    ∀ module, IsListed root workspace module →
      (exec (resolveModule root command (onlyModule module) usage) workspace =
          (.ok module, workspace) ↔ Text.IsPascal module.toList) ∧
      ∀ found final,
        exec (resolveModule root command (onlyModule module) usage) workspace =
          (.ok found, final) → found = Text.pascalCase module ∧ final = workspace := by
  constructor
  · intro options refusal refuses module advised
    exact isListed_of_advised refuses advised
  · intro module listed
    refine ⟨exec_resolveModule_listed_iff wellNamed listed, ?_⟩
    intro found final accepted
    obtain ⟨kept, -, found_eq, -⟩ := exec_resolveModule_eq_ok_iff.1 accepted
    exact ⟨found_eq, kept⟩

/-- A workspace with a module in Pascal case, one with the same words and one of a single word in
lower case. -/
def mixedWorkspace : Workspace :=
  .start (.withDirectories ([["src"], ["src", "presentation"]] ++
    ["IdentityApi", "identity-api", "orders"].map fun name => ["src", "presentation", name]))

theorem wellNamed_mixedWorkspace : mixedWorkspace.disk.tree.WellNamed :=
  Tree.wellNamed_of_entries (by decide +kernel)

theorem isListed_mixedWorkspace {module : String} (hidden : isHidden module = false)
    (there : mixedWorkspace.disk.tree.item? ["src", "presentation", module] = some .directory) :
    IsListed ⟨.relative, []⟩ mixedWorkspace module := by
  have led : mixedWorkspace.disk.placeOf (moduleRoot ⟨.relative, []⟩) =
      .ok ["src", "presentation"] := by decide +kernel
  rw [isListed_iff, mem_modulesOn_iff]
  exact ⟨hidden, by decide +kernel, _, led, by decide +kernel, there⟩

theorem listed_module_is_accepted_mixedWorkspace :
    mixedWorkspace.disk.tree.WellNamed ∧
      IsListed ⟨.relative, []⟩ mixedWorkspace "IdentityApi" ∧
      exec (resolveModule ⟨.relative, []⟩ "make:query" (onlyModule "IdentityApi") none)
        mixedWorkspace = (.ok "IdentityApi", mixedWorkspace) := by
  have listed : IsListed ⟨.relative, []⟩ mixedWorkspace "IdentityApi" :=
    isListed_mixedWorkspace (by decide +kernel) (by decide +kernel)
  have isPascal : Text.IsPascal "IdentityApi".toList :=
    pascalCase_eq_self_iff.1 (by decide +kernel)
  obtain ⟨-, accepted⟩ := listed_module_is_accepted_iff_isPascal wellNamed_mixedWorkspace
  exact ⟨wellNamed_mixedWorkspace, listed, (accepted "IdentityApi" listed).1.2 isPascal⟩

/-- One listed module is accepted as another, and one is not accepted at all. -/
theorem listed_modules_astray_mixedWorkspace :
    (IsListed ⟨.relative, []⟩ mixedWorkspace "identity-api" ∧
      exec (resolveModule ⟨.relative, []⟩ "make:query" (onlyModule "identity-api") none)
        mixedWorkspace = (.ok "IdentityApi", mixedWorkspace)) ∧
    IsListed ⟨.relative, []⟩ mixedWorkspace "orders" ∧
      ¬∃ found final, exec (resolveModule ⟨.relative, []⟩ "make:query" (onlyModule "orders") none)
        mixedWorkspace = (.ok found, final) := by
  refine ⟨⟨isListed_mixedWorkspace (by decide +kernel) (by decide +kernel), ?_⟩,
    isListed_mixedWorkspace (by decide +kernel) (by decide +kernel), ?_⟩
  · rw [exec_resolveModule_eq_ok_iff]
    exact ⟨rfl, by decide +kernel, by decide +kernel, by unfold LeadsToDirectory; decide +kernel⟩
  · intro ⟨found, final, accepted⟩
    obtain ⟨-, -, rfl, leads⟩ := exec_resolveModule_eq_ok_iff.1 accepted
    have absent : mixedWorkspace.disk.look
        ((moduleRoot ⟨.relative, []⟩).child (nameOf (onlyModule "orders") "module")) =
        .ok none := by decide +kernel
    rw [LeadsToDirectory, absent] at leads
    cases leads

end Scaffold.Generator
