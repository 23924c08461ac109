import Scaffold.Proofs.Disk.Lexical
import Scaffold.Proofs.Disk.Tree

/-!
# The last name of a path

A text that ends in some characters names a path whose last component ends in them, and what such a
path leads to ends in that component. So places whose last names end differently are different.
-/

set_option autoImplicit false

namespace Scaffold

/-- Whether the last of some names ends in a text. -/
def EndsIn (names : List String) (ending : List Char) : Prop :=
  ∃ before start, names = before ++ [String.ofList (start ++ ending)]

namespace EndsIn

theorem append_left {names : List String} {ending : List Char} (ends : EndsIn names ending)
    (above : List String) : EndsIn (above ++ names) ending := by
  obtain ⟨before, start, rfl⟩ := ends
  exact ⟨above ++ before, start, (List.append_assoc _ _ _).symm⟩

/-- Names cannot end in two texts of which the shorter does not end the longer. -/
theorem ne {names others : List String} {ending other : List Char} (ends : EndsIn names ending)
    (endsOther : EndsIn others other) (shorter : ending.length ≤ other.length)
    (apart : ¬ending <:+ other) : names ≠ others := by
  rintro rfl
  obtain ⟨before, start, names_eq⟩ := ends
  obtain ⟨beforeOther, startOther, names_eq_other⟩ := endsOther
  rw [names_eq] at names_eq_other
  obtain ⟨-, last_eq⟩ := List.append_inj' names_eq_other rfl
  have same : start ++ ending = startOther ++ other :=
    String.ofList_injective (List.singleton_inj.1 last_eq)
  exact apart (List.suffix_of_suffix_length_le ⟨start, same⟩ ⟨startOther, rfl⟩ shorter)

end EndsIn

namespace Path

theorem ofList_ne {characters : List Char} {text : String}
    (differs : characters.length ≠ text.toList.length) : String.ofList characters ≠ text := by
  intro same
  rw [← same, String.toList_ofList] at differs
  exact differs rfl

/-- A text that ends in a few characters without a slash names a path that ends in them. -/
theorem endsIn_partsOf {ending : List Char} (single : '/' ∉ ending) (several : 1 < ending.length)
    (text : List Char) : EndsIn (partsOf (text ++ ending)) ending := by
  induction text using slashInduction with
  | single text unslashed =>
    have whole : '/' ∉ text ++ ending := by simp [unslashed, single]
    have long : 1 < (text ++ ending).length := by
      rw [List.length_append]
      omega
    have filled : String.ofList (text ++ ending) ≠ "" :=
      ofList_ne (Nat.ne_of_gt (Nat.lt_trans Nat.zero_lt_one long))
    have notSelf : String.ofList (text ++ ending) ≠ "." := ofList_ne (Nat.ne_of_gt long)
    refine ⟨[], text, ?_⟩
    rw [partsOf_of_single whole, List.filter_cons_of_pos, List.filter_nil, List.nil_append]
    simp only [ne_eq, filled, not_false_eq_true, decide_true, notSelf, Bool.and_self]
  | several before after _ ends =>
    -- Only what comes after the last slash is in the last component.
    rw [List.append_assoc, List.cons_append, partsOf_append_cons_slash]
    exact ends.append_left _

theorem endsIn_child {ending : List Char} (single : '/' ∉ ending) (several : 1 < ending.length)
    (path : Path) {name : String} {start : List Char} (name_eq : name.toList = start ++ ending) :
    EndsIn (path.child name).parts ending := by
  have ends := endsIn_partsOf single several start
  unfold child join ofString
  rw [name_eq]
  split
  · exact ends.append_left _
  · exact ends

end Path

/-- A path that ends in a name other than double dots leads to a place that ends in it. -/
theorem Disk.endsIn_of_placeOf {disk : Disk} {path : Path} {place : Place} {ending : List Char}
    (ends : EndsIn path.parts ending) (several : 2 < ending.length)
    (led : disk.placeOf path = .ok place) : EndsIn place ending := by
  obtain ⟨before, start, parts_eq⟩ := ends
  rw [placeOf, parts_eq] at led
  obtain ⟨directory, -, leads⟩ := exists_walk_of_append led
  have notParent : String.ofList (start ++ ending) ≠ ".." := by
    refine Path.ofList_ne (Nat.ne_of_gt ?_)
    rw [List.length_append]
    exact Nat.lt_of_lt_of_le several (Nat.le_add_left _ _)
  obtain ⟨-, ⟨up, -⟩ | ⟨-, -, arrived⟩⟩ := walk_cons_eq_ok_iff.1 leads
  · exact absurd up notParent
  · cases arrived
    exact ⟨directory, start, rfl⟩

end Scaffold
