import Mathlib.Data.List.Basic

/-!
# Pieces with a separator between them

What holds of the separator and of all pieces holds of what they are joined to, and a change of single
characters or a count of one goes through to them.
-/

set_option autoImplicit false

namespace Scaffold.Text

theorem forall_mem_intercalate {property : Char → Prop} {separator : List Char}
    {pieces : List (List Char)} (between : ∀ character ∈ separator, property character)
    (inside : ∀ piece ∈ pieces, ∀ character ∈ piece, property character) :
    ∀ character ∈ separator.intercalate pieces, property character := by
  induction pieces with
  | nil => exact nofun
  | cons piece pieces ih =>
    obtain ⟨insidePiece, insideRest⟩ := List.forall_mem_cons.1 inside
    cases pieces with
    | nil =>
      rw [List.intercalate_singleton]
      exact insidePiece
    | cons next pieces =>
      rw [List.intercalate_cons_cons]
      exact List.forall_mem_append.2
        ⟨List.forall_mem_append.2 ⟨insidePiece, between⟩, ih insideRest⟩

/-- Pieces in two rows are joined as each row is, with a separator between the two. -/
theorem intercalate_append (separator : List Char) {front back : List (List Char)}
    (filledFront : front ≠ []) (filledBack : back ≠ []) :
    separator.intercalate (front ++ back) =
      separator.intercalate front ++ (separator ++ separator.intercalate back) := by
  induction front with
  | nil => exact absurd rfl filledFront
  | cons piece front ih =>
    cases front with
    | nil =>
      obtain ⟨next, back, rfl⟩ := List.exists_cons_of_ne_nil filledBack
      rw [List.singleton_append, List.intercalate_cons_cons, List.intercalate_singleton,
        List.append_assoc]
    | cons second front =>
      have below := ih (List.cons_ne_nil second front)
      rw [List.cons_append, List.cons_append, List.intercalate_cons_cons, ← List.cons_append,
        below, List.intercalate_cons_cons]
      simp only [List.append_assoc]

theorem flatMap_intercalate (convert : Char → List Char) (separator : List Char)
    (pieces : List (List Char)) :
    (separator.intercalate pieces).flatMap convert =
      (separator.flatMap convert).intercalate (pieces.map (·.flatMap convert)) := by
  induction pieces with
  | nil => rfl
  | cons piece pieces ih =>
    cases pieces with
    | nil => simp
    | cons next pieces =>
      simp only [List.map_cons, List.intercalate_cons_cons, List.flatMap_append] at ih ⊢
      rw [ih]

/-- A character that no piece has is in what is joined as often as in all the separators. -/
theorem count_intercalate (separator : List Char) {character : Char} {pieces : List (List Char)}
    (absent : ∀ piece ∈ pieces, character ∉ piece) :
    (separator.intercalate pieces).count character =
      (pieces.length - 1) * separator.count character := by
  induction pieces with
  | nil => simp
  | cons piece pieces ih =>
    have absentHere := List.count_eq_zero_of_not_mem (absent piece List.mem_cons_self)
    have later := ih fun other among => absent other (List.mem_cons_of_mem _ among)
    cases pieces with
    | nil => simp [absentHere]
    | cons next pieces =>
      rw [List.intercalate_cons_cons, List.count_append, List.count_append, absentHere, later]
      simp only [List.length_cons, Nat.add_sub_cancel]
      rw [Nat.succ_mul]
      omega

/-- A piece stands in what it is joined to. -/
theorem isInfix_intercalate (separator : List Char) {piece : List Char} {pieces : List (List Char)}
    (among : piece ∈ pieces) : piece <:+: separator.intercalate pieces := by
  induction pieces with
  | nil => cases among
  | cons first pieces ih =>
    cases pieces with
    | nil =>
      rw [List.intercalate_singleton]
      exact List.mem_singleton.1 among ▸ List.infix_refl piece
    | cons next pieces =>
      rw [List.intercalate_cons_cons]
      rcases List.mem_cons.1 among with rfl | below
      · exact (List.infix_append' [] piece _).trans (List.infix_append' [] _ _)
      · exact (ih below).trans (List.suffix_append _ _).isInfix

/-- What stands in a text, and has some character not in it, stands before or after that character. -/
theorem isInfix_or_isInfix_of_not_mem {separator : Char} {text front back : List Char}
    (whole : separator ∉ text) (stands : text <:+: front ++ separator :: back) :
    text <:+: front ∨ text <:+: back := by
  induction front with
  | nil =>
    rcases List.infix_cons_iff.1 stands with begins | below
    · cases text with
      | nil => exact .inl (List.nil_infix)
      | cons character text =>
        obtain ⟨same, -⟩ := List.cons_prefix_cons.1 begins
        exact absurd (same ▸ List.mem_cons_self) whole
    · exact .inr below
  | cons character front ih =>
    rcases List.infix_cons_iff.1 stands with begins | below
    · rcases List.prefix_or_prefix_of_prefix begins (List.prefix_append (character :: front) _) with
        inside | beyond
      · exact .inl inside.isInfix
      · obtain ⟨rest, rfl⟩ := beyond
        have begun := (List.prefix_append_right_inj (character :: front)).1 begins
        cases rest with
        | nil =>
          rw [List.append_nil]
          exact .inl (List.infix_refl _)
        | cons first rest =>
          obtain ⟨same, -⟩ := List.cons_prefix_cons.1 begun
          exact absurd (same ▸ List.mem_append_right _ List.mem_cons_self) whole
    · exact (ih below).imp_left fun inside => inside.trans (List.suffix_cons character front).isInfix

/-- What has no separator in it stands in a piece if it stands in what the pieces are joined to. -/
theorem exists_isInfix_of_intercalate {separator : Char} {text : List Char} {pieces : List (List Char)}
    (filled : text ≠ []) (whole : separator ∉ text)
    (stands : text <:+: [separator].intercalate pieces) : ∃ piece ∈ pieces, text <:+: piece := by
  induction pieces with
  | nil => exact absurd (List.infix_nil.1 stands) filled
  | cons piece pieces ih =>
    cases pieces with
    | nil =>
      rw [List.intercalate_singleton] at stands
      exact ⟨piece, List.mem_singleton_self piece, stands⟩
    | cons next pieces =>
      rw [List.intercalate_cons_cons, List.append_assoc, List.singleton_append] at stands
      rcases isInfix_or_isInfix_of_not_mem whole stands with here | later
      · exact ⟨piece, List.mem_cons_self, here⟩
      · obtain ⟨other, among, standsThere⟩ := ih later
        exact ⟨other, List.mem_cons_of_mem piece among, standsThere⟩

end Scaffold.Text
