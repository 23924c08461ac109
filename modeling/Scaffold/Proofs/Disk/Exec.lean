import Scaffold.Disk.Basic

/-!
# Carrying out steps

What steps that can fail give in a state, and the state after them. Each way of putting steps
together has one equation, so that no proof about steps opens the monads they are written in.
-/

set_option autoImplicit false

namespace Scaffold

variable {σ ε ζ α β : Type}

/-- The result of steps in a state and the state that they leave. -/
def exec (action : ExceptT ε (StateM σ) α) (state : σ) : Except ε α × σ :=
  action.run.run state

@[simp] theorem exec_pure (value : α) (state : σ) :
    exec (pure value : ExceptT ε (StateM σ) α) state = (.ok value, state) := rfl

@[simp] theorem exec_throw (fault : ε) (state : σ) :
    exec (throw fault : ExceptT ε (StateM σ) α) state = (.error fault, state) := rfl

@[simp] theorem exec_get (state : σ) :
    exec (get : ExceptT ε (StateM σ) σ) state = (.ok state, state) := rfl

@[simp] theorem exec_set (next state : σ) :
    exec (set next : ExceptT ε (StateM σ) PUnit) state = (.ok ⟨⟩, next) := rfl

@[simp] theorem exec_modify (change : σ → σ) (state : σ) :
    exec (modify change : ExceptT ε (StateM σ) PUnit) state = (.ok ⟨⟩, change state) := rfl

@[simp] theorem exec_bind (action : ExceptT ε (StateM σ) α) (next : α → ExceptT ε (StateM σ) β)
    (state : σ) :
    exec (action >>= next) state =
      match exec action state with
      | (.ok value, state) => exec (next value) state
      | (.error fault, state) => (.error fault, state) := by
  unfold exec ExceptT.run StateT.run
  simp only [bind, ExceptT.bind, ExceptT.mk, StateT.bind, ExceptT.bindCont]
  cases action state with
  | mk result state => cases result <;> rfl

theorem exec_bind_eq_ok_iff {action : ExceptT ε (StateM σ) α} {next : α → ExceptT ε (StateM σ) β}
    {state final : σ} {result : β} :
    exec (action >>= next) state = (.ok result, final) ↔
      ∃ value middle, exec action state = (.ok value, middle) ∧
        exec (next value) middle = (.ok result, final) := by
  rw [exec_bind]
  obtain ⟨outcome, middle⟩ := exec action state
  cases outcome with
  | error fault => simp
  | ok value =>
    constructor
    · intro ran
      exact ⟨value, middle, rfl, ran⟩
    · rintro ⟨_, _, same, ran⟩
      cases same
      exact ran

theorem exists_exec_eq {action : ExceptT ε (StateM σ) α} {state : σ} {result : Except ε α}
    (ended : (exec action state).1 = result) : ∃ final, exec action state = (result, final) :=
  ⟨(exec action state).2, Prod.ext ended rfl⟩

theorem exists_exec_eq_ok {action : ExceptT ε (StateM σ) α} {state : σ}
    (succeeds : (exec action state).1.isOk = true) :
    ∃ value final, exec action state = (.ok value, final) := by
  cases ran : exec action state with
  | mk outcome final =>
    rw [ran] at succeeds
    cases outcome with
    | error fault => cases succeeds
    | ok value => exact ⟨value, final, rfl⟩

theorem exists_exec_eq_of_toOption {action : ExceptT ε (StateM σ) α} {state : σ} {value : α}
    (ended : (exec action state).1.toOption = some value) :
    ∃ final, exec action state = (.ok value, final) := by
  refine exists_exec_eq ?_
  cases outcome : (exec action state).1 with
  | error fault =>
    rw [outcome] at ended
    cases ended
  | ok found =>
    rw [outcome] at ended
    cases ended
    rfl

theorem fst_exec_bind_eq_error_iff {action : ExceptT ε (StateM σ) α}
    {next : α → ExceptT ε (StateM σ) β} {state : σ} {fault : ε} :
    (exec (action >>= next) state).1 = .error fault ↔
      (exec action state).1 = .error fault ∨
        ∃ value middle, exec action state = (.ok value, middle) ∧
          (exec (next value) middle).1 = .error fault := by
  rw [exec_bind]
  obtain ⟨outcome, middle⟩ := exec action state
  cases outcome with
  | error fault => simp
  | ok value =>
    constructor
    · intro failed
      exact .inr ⟨value, middle, rfl, failed⟩
    · rintro (failed | ⟨_, _, same, failed⟩)
      · cases failed
      · cases same
        exact failed

@[simp] theorem exec_map (convert : α → β) (action : ExceptT ε (StateM σ) α) (state : σ) :
    exec (convert <$> action) state =
      match exec action state with
      | (.ok value, state) => (.ok (convert value), state)
      | (.error fault, state) => (.error fault, state) := by
  unfold exec ExceptT.run StateT.run
  simp only [Functor.map, ExceptT.map, ExceptT.mk, bind, StateT.bind]
  cases action state with
  | mk result state => cases result <;> rfl

@[simp] theorem exec_tryCatch (action : ExceptT ε (StateM σ) α) (handler : ε → ExceptT ε (StateM σ) α)
    (state : σ) :
    exec (tryCatch action handler) state =
      match exec action state with
      | (.ok value, state) => (.ok value, state)
      | (.error fault, state) => exec (handler fault) state := by
  unfold exec ExceptT.run StateT.run
  simp only [tryCatch, tryCatchThe, MonadExceptOf.tryCatch, ExceptT.tryCatch, ExceptT.mk, bind,
    StateT.bind]
  cases action state with
  | mk result state => cases result <;> rfl

@[simp] theorem exec_adapt (convert : ε → ζ) (action : ExceptT ε (StateM σ) α) (state : σ) :
    exec (action.adapt convert) state =
      match exec action state with
      | (.ok value, state) => (.ok value, state)
      | (.error fault, state) => (.error (convert fault), state) := by
  have run_eq : exec (action.adapt convert) state =
      ((exec action state).1.mapError convert, (exec action state).2) := rfl
  rw [run_eq]
  cases exec action state with
  | mk result state => cases result <;> rfl

end Scaffold
