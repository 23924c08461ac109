import Scaffold.Proofs.Keyed
import Scaffold.Proofs.Result
import Scaffold.Proofs.Value.Part
import Scaffold.Shape.Check

/-!
# Values that pass a check

What is known of the parts when a check that is put together from others succeeds.
-/

set_option autoImplicit false

namespace Scaffold.Checked

variable {α β : Type}

theorem and_eq_ok_iff {first : Checked α} {second : Checked β} {both : α × β} :
    first.and second = .ok both ↔ first = .ok both.1 ∧ second = .ok both.2 := by
  obtain ⟨left, right⟩ := both
  cases first with
  | error problems => simp [Checked.and]
  | ok value => cases second <;> simp [Checked.and]

theorem within_eq_ok_iff {checked : Checked α} {name : String} {value : α} :
    checked.within name = .ok value ↔ checked = .ok value :=
  Result.mapError_eq_ok_iff

/-! ## Problems -/

theorem problems_and {first : Checked α} {second : Checked β} :
    (first.and second).problems = first.problems ++ second.problems := by
  cases first <;> cases second <;> rfl

theorem problems_within {checked : Checked α} {name : String} :
    (checked.within name).problems = checked.problems.map (·.within name) := by
  cases checked <;> rfl

theorem problems_map {checked : Checked α} {convert : α → β} :
    problems (checked.map convert) = checked.problems := by
  cases checked <;> rfl

theorem eq_error_of_mem_problems {checked : Checked α} {problem : Problem}
    (member : problem ∈ checked.problems) : checked = .error checked.problems := by
  cases checked with
  | error problems => rfl
  | ok value => cases member

/-! ## Entries -/

/-- Everything that a check of entries gives is what the check of their values gave. -/
theorem exists_of_entriesFrom {check : Value → Checked α} {entries : List (Value × Value)}
    {named : List (String × α)} (passed : entriesFrom check entries = .ok named) :
    ∀ entry ∈ named, ∃ held, check held = .ok entry.2 := by
  induction entries generalizing named with
  | nil =>
    cases passed
    exact nofun
  | cons first entries ih =>
    obtain ⟨key, held⟩ := first
    obtain ⟨both, passedBoth, rfl⟩ := Result.map_eq_ok_iff.1 passed
    obtain ⟨passedFirst, passedRest⟩ := and_eq_ok_iff.1 passedBoth
    obtain ⟨-, passedValue⟩ := and_eq_ok_iff.1 passedFirst
    intro entry member
    rcases List.mem_cons.1 member with rfl | member
    · exact ⟨held, within_eq_ok_iff.1 passedValue⟩
    · exact ih passedRest entry member

theorem exists_of_mapping {check : Value → Checked α} {value : Value} {named : Keyed String α}
    (passed : mapping check value = .ok named) :
    ∃ entries, named = Keyed.ofList entries ∧
      ∀ entry ∈ entries, ∃ held, check held = .ok entry.2 := by
  cases value with
  | mapping entries =>
    obtain ⟨checked, passedEntries, rfl⟩ := Result.map_eq_ok_iff.1 passed
    exact ⟨checked, rfl, exists_of_entriesFrom passedEntries⟩
  | _ => cases passed

theorem nodup_keys_of_mapping {check : Value → Checked α} {value : Value}
    {named : Keyed String α} (passed : mapping check value = .ok named) :
    (Keyed.keys named).Nodup := by
  obtain ⟨entries, rfl, -⟩ := exists_of_mapping passed
  exact Keyed.nodup_keys_ofList entries

/-! ## Entries that pass a check -/

section Passes

variable {check : Value → Checked α} {entries : List (Value × Value)} {fields : Keyed String α}

end Passes

/-! ## Mappings that pass a check -/

section Mapping

variable {check : Value → Checked α} {value : Value} {fields : Keyed String α}

end Mapping

end Scaffold.Checked
