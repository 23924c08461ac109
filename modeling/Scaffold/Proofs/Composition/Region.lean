import Scaffold.Proofs.Composition.Listing

/-!
# Import lines above and below the list

A text falls into the lines above its list, those that the list stands in, and those below. A
reference appended to the list changes the ones in the middle only, and none of them imports.
-/

set_option autoImplicit false

namespace Scaffold.Composition

open Text

private theorem importsNothing_congr {pieces other : List Line}
    (same : pieces.map Line.body = other.map Line.body) (clear : ImportsNothing pieces) :
    ImportsNothing other := by
  intro line member
  have body : line.body ∈ pieces.map Line.body := by
    rw [same]
    exact List.mem_map_of_mem member
  obtain ⟨found, inPieces, body_eq⟩ := List.mem_map.1 body
  rw [← body_eq]
  exact clear found inPieces

theorem importsNothing_of_placedFrom {start : Nat} {pieces : List Line}
    (none : placedFrom start pieces = []) : ImportsNothing pieces := by
  induction pieces generalizing start with
  | nil => exact importsNothing_nil
  | cons line lines ih =>
    by_cases imports : isImportLine line.body = true
    · simp [placedFrom, imports] at none
    · simp only [placedFrom, imports] at none
      exact importsNothing_cons.2 ⟨Bool.eq_false_iff.2 imports, ih none⟩

/-- Whether lines are those that the list stands in. The first of them begins with `opened`, which
ends in the opening bracket, and `closing` and `ending` follow the closing bracket in the last. -/
structure IsRegion (opened body closing ending : List Char) (region : List Line) : Prop where
  text_eq : joinLines region = opened ++ body ++ ']' :: closing ++ ending
  bodies_eq :
    region.map Line.body = (lines (opened ++ (body ++ ']' :: closing))).map Line.body
  finishes : ∀ start, ∀ placed ∈ placedFrom start region, start + opened.length ≤ placed.finish
  starts :
    ∀ start, ∀ placed ∈ placedFrom start region, placed.start ≤ start + (opened ++ body).length

private theorem start_le_of_mem_placedFrom {start : Nat} {above : List Line} {last : Line}
    {placed : Placed} (member : placed ∈ placedFrom start (above ++ [last])) :
    placed.start ≤ start + (joinLines above).length := by
  rw [placedFrom_append, List.mem_append] at member
  rcases member with inAbove | isLast
  · have bound := (placedFrom_bounds inAbove).2
    exact Nat.le_trans (Nat.le_add_right _ _) bound
  · by_cases imports : isImportLine last.body = true
    · simp only [placedFrom, imports, if_true, List.mem_singleton] at isLast
      rw [isLast]
    · simp [placedFrom, imports] at isLast

theorem le_finish_of_mem_placedFrom {start : Nat} {first : Line} {below : List Line}
    {placed : Placed} (member : placed ∈ placedFrom start (first :: below)) :
    start + first.toList.length ≤ placed.finish := by
  have later (found : placed ∈ placedFrom (start + first.toList.length) below) :
      start + first.toList.length ≤ placed.finish :=
    Nat.le_trans (placedFrom_bounds found).1 (Nat.le_add_right _ _)
  by_cases imports : isImportLine first.body = true
  · simp only [placedFrom, imports, if_true, List.mem_cons] at member
    rcases member with rfl | member
    · exact Nat.le_refl _
    · exact later member
  · simp only [placedFrom, imports] at member
    exact later member

private theorem lines_bracket (back : List Char) :
    ∃ closing ending below, lines (']' :: back) = ⟨']' :: closing, ending⟩ :: below ∧
      (∀ character ∈ closing, isLineEnd character = false) ∧
      lines (']' :: closing) = [⟨']' :: closing, []⟩] := by
  have bracket : ∀ character ∈ [']'], isLineEnd character = false :=
    List.all_iff_forall_prop.1 (by decide)
  have begun : lines (']' :: back) = prependLine [']'] (lines back) :=
    lines_append_of_unended bracket back
  have single {closing : List Char} (unended : ∀ character ∈ closing, isLineEnd character = false) :
      lines (']' :: closing) = [⟨']' :: closing, []⟩] := by
    have whole : ∀ character ∈ ']' :: closing, isLineEnd character = false :=
      List.forall_mem_cons.2 ⟨by decide, unended⟩
    have alone := lines_append_of_unended whole []
    rw [List.append_nil] at alone
    exact alone
  have areLines := areLines_lines back
  rw [begun]
  generalize lines back = pieces at areLines
  cases areLines with
  | nil => exact ⟨[], [], [], rfl, by simp, single (by simp)⟩
  | last filled unended => exact ⟨_, _, _, rfl, unended, single unended⟩
  | cons unended ends rest => exact ⟨_, _, _, rfl, unended, single unended⟩

/-- The lines of a text with a list in it. Those above and below do not depend on the list. -/
theorem exists_lines_list {front : List Char} (bracketed : front.getLast? = some '[')
    (back : List Char) :
    ∃ above opened closing ending below, front = joinLines above ++ opened ∧
      opened.getLast? = some '[' ∧ (∀ character ∈ closing, isLineEnd character = false) ∧
      lines (']' :: back) = ⟨']' :: closing, ending⟩ :: below ∧
      ∀ body, ∃ region, IsRegion opened body closing ending region ∧
        lines (front ++ (body ++ ']' :: back)) = above ++ (region ++ below) := by
  obtain ⟨above, opened, front_eq, openedEnds, unended, split⟩ :=
    exists_lines_append bracketed (by decide)
  obtain ⟨closing, ending, below, bracket, unendedClosing, alone⟩ := lines_bracket back
  refine ⟨above, opened, closing, ending, below, front_eq, openedEnds, unendedClosing, bracket,
    fun body => ?_⟩
  obtain ⟨closed, rest, broken⟩ := exists_breaksInto body
  have apart {text : List Char} :
      body.getLast? = some '\r' → (']' :: text).head? ≠ some '\n' := by simp
  have whole := broken.lines_append (']' :: back) apart
  have short := broken.lines_append (']' :: closing) apart
  rw [bracket] at whole
  rw [alone] at short
  have region_eq : prependLine opened (closed ++ [⟨rest ++ ']' :: closing, ending⟩]) ++ below =
      prependLine opened (lines (body ++ ']' :: back)) := by
    rw [whole, ← prependLine_append opened (by simp)]
    simp [prependLine]
  refine ⟨prependLine opened (closed ++ [⟨rest ++ ']' :: closing, ending⟩]), ⟨?_, ?_, ?_, ?_⟩, ?_⟩
  · rw [joinLines_prependLine, broken.text_eq]
    simp [Line.toList]
  · rw [lines_append_of_unended unended, short]
    cases closed <;> simp [prependLine]
  · intro start placed member
    cases closed with
    | nil =>
      have bound := le_finish_of_mem_placedFrom member
      simp only [Line.toList, List.length_append] at bound
      omega
    | cons line closed =>
      have bound := le_finish_of_mem_placedFrom member
      simp only [Line.toList, List.length_append] at bound
      omega
  · intro start placed member
    have body_length := congrArg List.length broken.text_eq
    rw [List.length_append] at body_length
    cases closed with
    | nil =>
      have bound : placed.start ≤ start + (joinLines []).length :=
        start_le_of_mem_placedFrom member
      simp only [joinLines_nil, List.length_nil] at bound
      omega
    | cons line closed =>
      have bound : placed.start ≤
          start + (joinLines (⟨opened ++ line.body, line.ending⟩ :: closed)).length :=
        start_le_of_mem_placedFrom member
      simp only [joinLines_cons, Line.toList, List.length_append] at bound body_length ⊢
      omega
  · rw [split, region_eq]

/-- A reference appended to the list leaves the import lines above and below the list as they are,
if none of them overlaps it. -/
theorem Appended.exists_placedImports {name front body newBody back : List Char} {opening : Nat}
    (named : IsName name) (appended : Appended (reference name) body newBody)
    (bracketed : front.getLast? = some '[') (early : opening < front.length)
    (clear : ∀ placed ∈ placedImports (front ++ (body ++ ']' :: back)),
      placed.finish ≤ opening ∨ (front ++ body).length < placed.start) :
    ∃ above, (∀ placed ∈ above, placed.finish ≤ opening) ∧
      placedImports (front ++ (body ++ ']' :: back)) =
        above ++ (placedImports (']' :: back)).map (Placed.later (front ++ body).length) ∧
      placedImports (front ++ (newBody ++ ']' :: back)) =
        above ++ (placedImports (']' :: back)).map (Placed.later (front ++ newBody).length) := by
  obtain ⟨above, opened, closing, ending, below, front_eq, openedEnds, unended, bracket, split⟩ :=
    exists_lines_list bracketed back
  have noBracket : isImportLine (']' :: closing) = false := beginsNoImport_bracket closing
  have front_length := congrArg List.length front_eq
  rw [List.length_append] at front_length
  -- The positions below the list follow from the length of the text above them.
  have placed_eq {text : List Char} {region : List Line}
      (isRegion : IsRegion opened text closing ending region) :
      placedFrom 0 (above ++ (region ++ below)) =
        placedFrom 0 above ++ (placedFrom (joinLines above).length region ++
          (placedImports (']' :: back)).map (Placed.later (front ++ text).length)) := by
    have region_length := congrArg List.length isRegion.text_eq
    simp only [List.length_append, List.length_cons] at region_length
    rw [placedFrom_append, placedFrom_append, placedImports, bracket, placedFrom]
    simp only [noBracket, Bool.false_eq_true, if_false]
    rw [← placedFrom_add, Nat.zero_add]
    congr 3
    simp only [Line.toList, List.length_append, List.length_cons]
    omega
  obtain ⟨region, isRegion, lines_eq⟩ := split body
  obtain ⟨newRegion, isNewRegion, newLines_eq⟩ := split newBody
  rw [placedImports, lines_eq, placed_eq isRegion] at clear ⊢
  have none : placedFrom (joinLines above).length region = [] := by
    refine List.eq_nil_iff_forall_not_mem.2 fun placed member => ?_
    have finishes := isRegion.finishes _ placed member
    have starts := isRegion.starts _ placed member
    have apart := clear placed (by simp [member])
    simp only [List.length_append] at starts apart
    omega
  have clearRegion : ImportsNothing (lines (opened ++ (body ++ ']' :: closing))) :=
    importsNothing_congr isRegion.bodies_eq (importsNothing_of_placedFrom none)
  have newNone : placedFrom (joinLines above).length newRegion = [] :=
    placedFrom_eq_nil (importsNothing_congr isNewRegion.bodies_eq.symm
      (appended.importsNothing named openedEnds unended clearRegion)) _
  refine ⟨placedFrom 0 above, fun placed member => ?_, ?_, ?_⟩
  · have bounds := (placedFrom_bounds member).2
    have apart := clear placed (by simp [member])
    simp only [Placed.finish, List.length_append] at bounds apart ⊢
    omega
  · rw [none, List.nil_append]
  · rw [placedImports, newLines_eq, placed_eq isNewRegion, newNone, List.nil_append]

end Scaffold.Composition
