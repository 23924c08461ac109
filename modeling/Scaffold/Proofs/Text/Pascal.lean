import Scaffold.Proofs.Text.WordCase

/-!
# Pascal case as a normal form

Whatever separates two texts, the words of both are joined as those of each alone. What is joined is one
word that begins in upper case, and so it is joined to itself again, with separators around it or
without.
-/

set_option autoImplicit false

namespace Scaffold.Text

/-- Whether a text consists of hyphens, underscores and blanks. -/
def IsSpacing (text : List Char) : Prop :=
  ∀ character ∈ text, isSeparator character = true

instance (text : List Char) : Decidable (IsSpacing text) :=
  List.decidableBAll (isSeparator · = true) text

/-! ## Words on both sides of separators -/

theorem pascalFrom_append_cons {separator : Char} (separates : isSeparator separator = true)
    (starts : Bool) (front back : List Char) :
    pascalFrom starts (front ++ separator :: back) =
      pascalFrom starts front ++ pascalFrom true back := by
  induction front generalizing starts with
  | nil => simp [pascalFrom, separates]
  | cons first front ih =>
    simp only [List.cons_append, pascalFrom, ih]
    split
    · rfl
    · split
      · rw [List.append_assoc]
      · rfl

theorem pascal_spacing_append {spacing : List Char} (isSpacing : IsSpacing spacing)
    (text : List Char) : pascal (spacing ++ text) = pascal text := by
  induction spacing with
  | nil => rfl
  | cons separator spacing ih =>
    obtain ⟨separates, others⟩ := List.forall_mem_cons.1 isSpacing
    rw [← ih others]
    exact pascalFrom_append_cons separates true [] (spacing ++ text)

/-- Texts with separators between them are joined one by one. -/
theorem pascal_append_spacing_append {spacing : List Char} (isSpacing : IsSpacing spacing)
    (filled : spacing ≠ []) (front back : List Char) :
    pascal (front ++ spacing ++ back) = pascal front ++ pascal back := by
  obtain ⟨separator, others, rfl⟩ := List.exists_cons_of_ne_nil filled
  obtain ⟨separates, isSpacingOthers⟩ := List.forall_mem_cons.1 isSpacing
  rw [List.append_assoc, List.cons_append, pascal, pascalFrom_append_cons separates]
  exact congrArg _ (pascal_spacing_append isSpacingOthers back)

theorem pascal_append_spacing {spacing : List Char} (isSpacing : IsSpacing spacing)
    (text : List Char) : pascal (text ++ spacing) = pascal text := by
  cases spacing with
  | nil => rw [List.append_nil]
  | cons separator others =>
    have joined := pascal_append_spacing_append isSpacing (List.cons_ne_nil _ _) text []
    rw [List.append_nil] at joined
    rw [joined]
    exact List.append_nil _

/-! ## What is joined -/

theorem upperOf_ne_nil (character : Char) : upperOf character ≠ [] := by
  have expanded : ∀ entry ∈ upperExpansions, entry.2 ≠ [] := by decide +kernel
  unfold upperOf mapped
  split
  · exact List.cons_ne_nil _ _
  · split
    · next codes found =>
      obtain ⟨before, after, split, -⟩ := List.lookup_eq_some_iff.1 found
      have member : (character.toNat, codes) ∈ upperExpansions := by
        rw [split]
        exact List.mem_append_right _ List.mem_cons_self
      exact List.map_eq_nil_iff.not.2 (expanded _ member)
    · split <;> exact List.cons_ne_nil _ _

/-- Nothing is joined of separators only. -/
theorem pascal_eq_nil_iff {text : List Char} : pascal text = [] ↔ IsSpacing text := by
  have general : ∀ starts, pascalFrom starts text = [] ↔ IsSpacing text := by
    induction text with
    | nil =>
      intro starts
      exact ⟨fun _ => nofun, fun _ => rfl⟩
    | cons first rest ih =>
      intro starts
      rw [pascalFrom, IsSpacing, List.forall_mem_cons]
      split
      · next separates => simp only [separates, true_and, ih, IsSpacing]
      · next other =>
        simp only [other, Bool.false_eq_true, false_and, iff_false]
        split
        · exact fun empty => upperOf_ne_nil first (List.append_eq_nil_iff.1 empty).1
        · exact List.cons_ne_nil _ _
  exact general true

/-- What is joined is one word that begins in upper case. -/
theorem isPascal_pascal (text : List Char) : IsPascal (pascal text) where
  joined := not_isSeparator_of_mem_pascalFrom
  raised := by
    induction text with
    | nil => exact nofun
    | cons first rest ih =>
      rw [pascal, pascalFrom]
      split
      · exact ih
      · -- The upper case of the first character may be of several; each is its own upper case.
        obtain ⟨initial, others, upper_eq⟩ := List.exists_cons_of_ne_nil (upperOf_ne_nil first)
        rw [if_pos rfl, upper_eq]
        intro head found
        obtain rfl : initial = head := Option.some.inj found
        exact upperOf_of_mem_upperOf (upper_eq ▸ List.mem_cons_self)

theorem pascal_pascal (text : List Char) : pascal (pascal text) = pascal text :=
  pascal_eq_self_iff.2 (isPascal_pascal text)

/-- A suffix without separators leaves a word as it is that begins in upper case. -/
theorem IsPascal.append {word suffix : List Char} (isPascal : IsPascal word) (filled : word ≠ [])
    (joined : ∀ character ∈ suffix, isSeparator character = false) : IsPascal (word ++ suffix) where
  joined := List.forall_mem_append.2 ⟨isPascal.joined, joined⟩
  raised := by
    obtain ⟨first, rest, rfl⟩ := List.exists_cons_of_ne_nil filled
    exact isPascal.raised

/-- A word that begins in upper case is joined to itself, whatever separators are around it. -/
theorem IsPascal.pascal_spaced {word before after : List Char} (isPascal : IsPascal word)
    (isSpacingBefore : IsSpacing before) (isSpacingAfter : IsSpacing after) :
    pascal (before ++ word ++ after) = word := by
  rw [pascal_append_spacing isSpacingAfter, pascal_spacing_append isSpacingBefore]
  exact pascal_eq_self_iff.2 isPascal

/-! ## Texts in Pascal case -/

theorem toList_pascalCase (text : String) : (pascalCase text).toList = pascal text.toList :=
  String.toList_ofList

theorem isPascal_pascalCase (text : String) : IsPascal (pascalCase text).toList := by
  rw [toList_pascalCase]
  exact isPascal_pascal text.toList

theorem pascalCase_append_spacing_append {spacing : String} (filled : spacing ≠ "")
    (isSpacing : IsSpacing spacing.toList) (front back : String) :
    pascalCase (front ++ spacing ++ back) = pascalCase front ++ pascalCase back := by
  rw [← String.toList_inj]
  simp only [toList_pascalCase, String.toList_append]
  exact pascal_append_spacing_append isSpacing (String.toList_eq_nil_iff.not.2 filled) _ _

theorem pascalCase_eq_empty_iff {text : String} :
    pascalCase text = "" ↔ IsSpacing text.toList :=
  String.ofList_eq_empty_iff.trans pascal_eq_nil_iff

theorem pascalCase_pascalCase (text : String) : pascalCase (pascalCase text) = pascalCase text := by
  rw [← String.toList_inj]
  simp only [toList_pascalCase]
  exact pascal_pascal text.toList

end Scaffold.Text
