import Mathlib.Data.List.TakeWhile
import Scaffold.Text.Search

/-!
# Texts in texts

What it means for a text to begin with another one, where a character first occurs, what comes before
it, and what the last line of a text is.
-/

set_option autoImplicit false

namespace Scaffold.Text

/-! ## Beginnings -/

theorem after?_eq_some_iff {pattern text rest : List Char} :
    after? pattern text = some rest ↔ text = pattern ++ rest := by
  induction pattern generalizing text with
  | nil => simp [after?]
  | cons expected pattern ih =>
    cases text with
    | nil => simp [after?]
    | cons character text =>
      by_cases same : expected = character
      · subst same
        simp [after?, ih]
      · have different : ¬character = expected := fun equal => same equal.symm
        simp [after?, same, different]

theorem after?_isSome_iff {pattern text : List Char} :
    (after? pattern text).isSome = true ↔ ∃ rest, text = pattern ++ rest := by
  simp [Option.isSome_iff_exists, after?_eq_some_iff]

theorem after?_append_cons {pattern : List Char} {barrier : Char} (absent : barrier ∉ pattern)
    (front back : List Char) :
    after? pattern (front ++ barrier :: back) =
      (after? pattern front).map (· ++ barrier :: back) := by
  induction pattern generalizing front with
  | nil => simp [after?]
  | cons expected pattern ih =>
    obtain ⟨different, absentBelow⟩ := not_or.1 (List.mem_cons.not.1 absent)
    cases front with
    | nil => simp [after?, Ne.symm different]
    | cons character front =>
      by_cases same : expected = character
      · simp [after?, same, ih absentBelow]
      · simp [after?, same]

/-! ## First occurrences -/

theorem findFrom_singleton_eq_some_iff {wanted : Char} {start position : Nat}
    {text : List Char} :
    findFrom [wanted] start text = some position ↔
      ∃ front back, text = front ++ wanted :: back ∧ wanted ∉ front ∧
        position = start + front.length := by
  induction text generalizing start with
  | nil => simp [findFrom]
  | cons character text ih =>
    by_cases same : wanted = character
    · subst same
      have found : findFrom [wanted] start (wanted :: text) = some start := by
        simp [findFrom, after?]
      rw [found, Option.some.injEq]
      constructor
      · intro equal
        exact ⟨[], text, rfl, List.not_mem_nil, by simp [equal]⟩
      · rintro ⟨front, back, split, absent, rfl⟩
        cases front with
        | nil => simp
        | cons first front =>
          have first_eq : wanted = first := (List.cons.inj split).1
          simp [first_eq] at absent
    · have moved : findFrom [wanted] start (character :: text) =
          findFrom [wanted] (start + 1) text := by
        simp [findFrom, after?, same]
      rw [moved, ih]
      constructor
      · rintro ⟨front, back, rfl, absent, rfl⟩
        exact ⟨character :: front, back, rfl, by simp [same, absent],
          by simp only [List.length_cons]; omega⟩
      · rintro ⟨front, back, split, absent, rfl⟩
        cases front with
        | nil => exact absurd (List.cons.inj split).1.symm same
        | cons first front =>
          refine ⟨front, back, (List.cons.inj split).2, fun member => absent ?_, ?_⟩
          · exact List.mem_cons_of_mem _ member
          · simp only [List.length_cons]
            omega

/-- A text in which a character occurs falls apart at its first occurrence in one way only. -/
theorem append_cons_inj_of_not_mem {wanted : Char} {left right leftBelow rightBelow : List Char}
    (leftAbsent : wanted ∉ left) (rightAbsent : wanted ∉ right)
    (same : left ++ wanted :: leftBelow = right ++ wanted :: rightBelow) :
    left = right ∧ leftBelow = rightBelow := by
  induction left generalizing right with
  | nil =>
    cases right with
    | nil => exact ⟨rfl, (List.cons.inj same).2⟩
    | cons first right => simp [(List.cons.inj same).1] at rightAbsent
  | cons first left ih =>
    cases right with
    | nil => simp [(List.cons.inj same).1] at leftAbsent
    | cons second right =>
      obtain ⟨rfl, below⟩ := List.cons.inj same
      obtain ⟨rfl, rest⟩ := ih (fun member => leftAbsent (List.mem_cons_of_mem _ member))
        (fun member => rightAbsent (List.mem_cons_of_mem _ member)) below
      exact ⟨rfl, rest⟩

/-! ## Up to a character -/

theorem takeWhile_append_cons (barrier : Char) (front back : List Char) :
    (front ++ barrier :: back).takeWhile (· ≠ barrier) = front.takeWhile (· ≠ barrier) := by
  induction front with
  | nil => simp
  | cons first front ih =>
    by_cases same : first = barrier
    · simp [same]
    · simpa [List.takeWhile_cons, same] using ih

theorem takeWhile_append_of_mem {barrier : Char} {front : List Char} (member : barrier ∈ front)
    (back : List Char) :
    (front ++ back).takeWhile (· ≠ barrier) = front.takeWhile (· ≠ barrier) := by
  obtain ⟨before, after, rfl⟩ := List.append_of_mem member
  rw [List.append_assoc, List.cons_append, takeWhile_append_cons, takeWhile_append_cons]

theorem takeWhile_append_of_not_mem {barrier : Char} {front : List Char} (absent : barrier ∉ front)
    (back : List Char) :
    (front ++ back).takeWhile (· ≠ barrier) = front ++ back.takeWhile (· ≠ barrier) := by
  refine List.takeWhile_append_of_pos fun character member => ?_
  rw [decide_eq_true_eq]
  rintro rfl
  exact absent member

theorem takeWhile_of_not_mem {barrier : Char} {text : List Char} (absent : barrier ∉ text) :
    text.takeWhile (· ≠ barrier) = text := by
  have kept := takeWhile_append_of_not_mem absent []
  rwa [List.append_nil, List.takeWhile_nil, List.append_nil] at kept

/-! ## Last lines -/

theorem feed_not_mem_lastLine (text : List Char) : '\n' ∉ lastLine text := by
  intro member
  have taken := List.mem_takeWhile_imp (List.mem_reverse.1 member)
  simp at taken

theorem exists_append_lastLine (text : List Char) :
    ∃ above, text = above ++ lastLine text ∧ (above = [] ∨ above.getLast? = some '\n') := by
  refine ⟨(text.reverse.dropWhile (· ≠ '\n')).reverse, ?_, ?_⟩
  · rw [lastLine, ← List.reverse_append, List.takeWhile_append_dropWhile, List.reverse_reverse]
  · rw [List.getLast?_reverse, List.reverse_eq_nil_iff]
    cases dropped : text.reverse.dropWhile (· ≠ '\n') with
    | nil => exact .inl rfl
    | cons first rest =>
      have stopped := List.head?_dropWhile_not (· ≠ '\n') text.reverse
      rw [dropped] at stopped
      exact .inr (by simpa using stopped)

theorem lastLine_append_cons_feed (above below : List Char) :
    lastLine (above ++ '\n' :: below) = lastLine below := by
  have split : (above ++ '\n' :: below).reverse = below.reverse ++ '\n' :: above.reverse := by
    simp
  rw [lastLine, split, takeWhile_append_cons, lastLine]

theorem lastLine_eq_self {text : List Char} (whole : '\n' ∉ text) : lastLine text = text := by
  have kept : '\n' ∉ text.reverse := fun member => whole (List.mem_reverse.1 member)
  rw [lastLine, takeWhile_of_not_mem kept, List.reverse_reverse]

theorem lastLine_append {above : List Char} (ended : above.getLast? = some '\n')
    (below : List Char) : lastLine (above ++ below) = lastLine below := by
  obtain ⟨upper, rfl⟩ := List.getLast?_eq_some_iff.1 ended
  rw [List.append_assoc, List.singleton_append, lastLine_append_cons_feed]

end Scaffold.Text
