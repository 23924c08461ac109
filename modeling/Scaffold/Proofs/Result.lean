/-!
# Results that are there

A result that is converted, or whose fault is, is there exactly if the one it comes from is.
-/

set_option autoImplicit false

namespace Scaffold.Result

variable {α β ε δ : Type}

theorem map_eq_ok_iff {result : Except ε α} {convert : α → β} {value : β} :
    result.map convert = .ok value ↔ ∃ held, result = .ok held ∧ convert held = value := by
  cases result <;> simp [Except.map]

theorem bind_eq_ok_iff {result : Except ε α} {next : α → Except ε β} {value : β} :
    (result >>= next) = .ok value ↔ ∃ held, result = .ok held ∧ next held = .ok value := by
  cases result with
  | error fault =>
    constructor
    · intro same
      cases same
    · intro passed
      obtain ⟨_, same, -⟩ := passed
      cases same
  | ok held =>
    constructor
    · intro same
      exact ⟨held, rfl, same⟩
    · intro passed
      obtain ⟨_, same, given⟩ := passed
      cases same
      exact given

theorem mapError_eq_ok_iff {result : Except ε α} {convert : ε → δ} {value : α} :
    result.mapError convert = .ok value ↔ result = .ok value := by
  cases result with
  | error fault =>
    constructor
    · intro same
      cases same
    · intro same
      cases same
  | ok held =>
    constructor
    · intro same
      cases same
      rfl
    · intro same
      cases same
      rfl

end Scaffold.Result
