import Scaffold.Proofs.Generator.Mishap

/-!
# Invocations that are refused

An invocation is refused if it lacks a name or a parameter that must be given, and otherwise if it gives
a module that is not there. Both are found by looking at the disk only, so that a refusal leaves the
workspace as it was, except for the report of it.
-/

set_option autoImplicit false

namespace Scaffold.Generator

variable {α β : Type} {root : Path} {spec : Spec} {invocation : Invocation} {workspace : Workspace}
  {refusal : Refusal}

/-! ## What is lacking -/

/-- Whether a refusal is for something that was not given. -/
def Refusal.IsMissing : Refusal → Prop
  | .missingName _ _ _ => True
  | .missingParameters _ _ => True
  | .missingModule _ _ => True
  | .missingModuleOrEntity _ _ => True
  | _ => False

/-! ## Steps that refuse -/

/-- Whether steps end with a refusal. -/
def Refuses (action : Action α) (workspace : Workspace) (refusal : Refusal) : Prop :=
  (exec action workspace).1 = .error (.refused refusal)

theorem refuses_bind_iff {action : Action α} {next : α → Action β} :
    Refuses (action >>= next) workspace refusal ↔
      Refuses action workspace refusal ∨ ∃ value middle,
        exec action workspace = (.ok value, middle) ∧ Refuses (next value) middle refusal :=
  fst_exec_bind_eq_error_iff

@[simp] theorem not_refuses_pure (value : α) : ¬Refuses (pure value) workspace refusal := nofun

@[simp] theorem refuses_refuse_iff {other : Refusal} :
    Refuses (refuse other : Action α) workspace refusal ↔ refusal = other := by
  simp [Refuses, eq_comm]

@[simp] theorem not_refuses_listModules : ¬Refuses (listModules root) workspace refusal := by
  unfold Refuses
  rw [exec_listModules]
  cases workspace.disk.look (moduleRoot root) <;> simp

/-- A module is refused if its path does not lead to a directory. -/
theorem of_refuses_ensureModule {module : String}
    (refuses : Refuses (ensureModule root module) workspace refusal) :
    refusal = unknownModule workspace.disk root module ∧
      ¬LeadsToDirectory root workspace module := by
  unfold Refuses at refuses
  constructor
  · rw [exec_ensureModule] at refuses
    cases looked : workspace.disk.look ((moduleRoot root).child module) with
    | error fault => simp [looked] at refuses
    | ok seen =>
      rw [looked] at refuses
      dsimp only at refuses
      split at refuses
      · cases refuses
      · cases above : workspace.disk.look (moduleRoot root) with
        | error fault => simp [above] at refuses
        | ok other => simpa [above, eq_comm] using refuses
  · intro leads
    have accepted : exec (ensureModule root module) workspace = (.ok (), workspace) :=
      exec_ensureModule_eq_ok_iff.2 ⟨rfl, leads⟩
    rw [accepted] at refuses
    cases refuses

theorem of_refuses_resolveModule {command : String} {options : Fields} {usage : Option String}
    (refuses : Refuses (resolveModule root command options usage) workspace refusal) :
    isGiven options "module" = false ∧ refusal.IsMissing ∨
      isGiven options "module" = true ∧
        Refuses (ensureModule root (nameOf options "module")) workspace refusal := by
  unfold resolveModule at refuses
  cases given : isGiven options "module" with
  | false =>
    simp only [given, Bool.false_eq_true, if_false, refuses_bind_iff, not_refuses_listModules,
      false_or, refuses_refuse_iff] at refuses
    obtain ⟨_, _, -, rfl⟩ := refuses
    exact .inl ⟨rfl, trivial⟩
  | true =>
    simp only [given, if_true, refuses_bind_iff, not_refuses_pure, and_false, exists_false,
      or_false] at refuses
    exact .inr ⟨rfl, refuses⟩

end Scaffold.Generator
