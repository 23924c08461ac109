import Scaffold.Proofs.Composition.Importing
import Scaffold.Proofs.Composition.Region

/-!
# Import lines on both sides of a character

A character that stands in no line that imports a class parts the lines above it that do from those
below it. So it is known which of them stay when something is put between two such characters, and
how much room one of them needs there.
-/

set_option autoImplicit false

namespace Scaffold.Composition

open Text

/-! ## Lines that import one class -/

/-- The lines that import a class among the lines from a position on. -/
def importingFrom (className : List Char) (start : Nat) (pieces : List Line) : List Placed :=
  (placedFrom start pieces).filter fun placed =>
    trimRight placed.line.body = importLine className

def linesImporting (className text : List Char) : List Placed :=
  importingFrom className 0 (lines text)

/-- Whether a character can stand in no line that imports a class. -/
structure PartsImports (barrier : Char) (className : List Char) : Prop where
  inked : isBlank barrier = false
  absent : barrier ∉ importLine className

variable {className : List Char} {barrier : Char}

theorem IsClassName.partsImports (classNamed : IsClassName className)
    (inked : isBlank barrier = false) (other : isWord barrier = false)
    (noBackslash : barrier ≠ '\\') (noSemicolon : barrier ≠ ';') :
    PartsImports barrier className := by
  refine ⟨inked, ?_⟩
  have inMark : ∀ character ∈ ['u', 's', 'e', ' '],
      isWord character = true ∨ isBlank character = true :=
    List.all_iff_forall_prop.1 (by decide)
  intro member
  rw [importLine, List.mem_append, List.mem_append, List.mem_singleton] at member
  rcases member with (mark | inName) | semicolon
  · have kinds := inMark barrier mark
    rw [other, inked] at kinds
    simp at kinds
  · exact classNamed.not_mem other noBackslash inName
  · exact noSemicolon semicolon

namespace IsClassName

variable (classNamed : IsClassName className)
include classNamed

theorem parts_comma : PartsImports ',' className :=
  classNamed.partsImports (by decide) (by decide) (by decide) (by decide)

theorem parts_opening : PartsImports '[' className :=
  classNamed.partsImports (by decide) (by decide) (by decide) (by decide)

theorem parts_closing : PartsImports ']' className :=
  classNamed.partsImports (by decide) (by decide) (by decide) (by decide)

end IsClassName

theorem mem_imports_iff {text : List Char} :
    importLine className ∈ imports text ↔ ∃ placed, placed ∈ linesImporting className text := by
  rw [imports_eq, List.mem_map]
  constructor
  · rintro ⟨placed, member, same⟩
    exact ⟨placed, List.mem_filter.2 ⟨member, decide_eq_true same⟩⟩
  · rintro ⟨placed, member⟩
    obtain ⟨listed, same⟩ := List.mem_filter.1 member
    exact ⟨placed, listed, of_decide_eq_true same⟩

theorem importingFrom_append (className : List Char) (start : Nat) (above below : List Line) :
    importingFrom className start (above ++ below) =
      importingFrom className start above ++
        importingFrom className (start + (joinLines above).length) below := by
  rw [importingFrom, placedFrom_append, List.filter_append]
  rfl

theorem importingFrom_add (className : List Char) (distance start : Nat) (pieces : List Line) :
    importingFrom className (distance + start) pieces =
      (importingFrom className start pieces).map (Placed.later distance) := by
  rw [importingFrom, placedFrom_add, List.filter_map]
  rfl

theorem exists_line_of_mem_imports {text : List Char}
    (found : importLine className ∈ imports text) :
    ∃ line ∈ lines text, trimRight line.body = importLine className := by
  obtain ⟨body, listed, same⟩ := List.mem_map.1 found
  obtain ⟨line, member, rfl⟩ := List.mem_map.1 (List.mem_filter.1 listed).1
  exact ⟨line, member, same⟩

namespace PartsImports

theorem trimRight_ne (parts : PartsImports barrier className) {line : List Char}
    (member : barrier ∈ line) : trimRight line ≠ importLine className := by
  intro same
  obtain ⟨trailing, split, blank⟩ := exists_trimRight_append line
  rw [split, same, List.mem_append] at member
  rcases member with inLine | inTrailing
  · exact parts.absent inLine
  · have inked := parts.inked
    rw [isAllBlank_iff.1 blank barrier inTrailing] at inked
    cases inked

theorem importingFrom_cons (parts : PartsImports barrier className) {line : Line}
    (member : barrier ∈ line.body) (start : Nat) (below : List Line) :
    importingFrom className start (line :: below) =
      importingFrom className (start + line.toList.length) below := by
  have other : decide (trimRight line.body = importLine className) = false :=
    decide_eq_false (parts.trimRight_ne member)
  rw [importingFrom, placedFrom]
  by_cases found : isImportLine line.body = true
  · simp only [found, if_true]
    rw [List.filter_cons_of_neg (by simp [other])]
    rfl
  · simp only [found]
    rfl

/-- The character ends a text in the line that goes on, and this line does not import the class. -/
theorem exists_linesImporting_eq (parts : PartsImports barrier className) {front : List Char}
    (ends : front.getLast? = some barrier) :
    ∃ closed rest, front = joinLines closed ++ rest ∧ barrier ∈ rest ∧
      lines front = closed ++ [⟨rest, []⟩] ∧
      linesImporting className front = importingFrom className 0 closed ∧
      ∀ below, lines (front ++ below) = closed ++ prependLine rest (lines below) := by
  obtain ⟨closed, rest, front_eq, restEnds, -, split⟩ := exists_lines_append ends parts.inked
  have member : barrier ∈ rest := List.mem_of_getLast? restEnds
  have alone : lines front = closed ++ [⟨rest, []⟩] := by
    have whole := split []
    rw [List.append_nil] at whole
    rw [whole]
    cases rest with
    | nil => cases member
    | cons first rest => rfl
  have none : importingFrom className (0 + (joinLines closed).length) [⟨rest, []⟩] = [] :=
    parts.importingFrom_cons member _ []
  refine ⟨closed, rest, front_eq, member, alone, ?_, split⟩
  rw [linesImporting, alone, importingFrom_append, none, List.append_nil]

theorem exists_lines_cons (parts : PartsImports barrier className) (lower : List Char) :
    ∃ line below, lines (barrier :: lower) = line :: below ∧ barrier ∈ line.body := by
  have unended : ∀ character ∈ [barrier], isLineEnd character = false :=
    List.forall_mem_singleton.2 (not_isLineEnd_of_not_isBlank parts.inked)
  have begun := lines_append_of_unended unended lower
  rw [List.singleton_append] at begun
  rw [begun]
  cases lines lower with
  | nil => exact ⟨_, _, rfl, List.mem_singleton_self barrier⟩
  | cons line lines => exact ⟨_, _, rfl, List.mem_cons_self⟩

/-- The lines above the character and those below it, where these were without the others. -/
theorem linesImporting_append_cons (parts : PartsImports barrier className)
    (upper lower : List Char) :
    linesImporting className (upper ++ barrier :: lower) =
      linesImporting className (upper ++ [barrier]) ++
        (linesImporting className (barrier :: lower)).map (Placed.later upper.length) := by
  obtain ⟨closed, rest, upper_eq, member, -, above, split⟩ :=
    parts.exists_linesImporting_eq (List.getLast?_concat (l := upper))
  have whole := split lower
  rw [List.append_assoc, List.singleton_append] at whole
  have short : barrier ∈ [barrier] := List.mem_singleton_self barrier
  have unended : ∀ character ∈ [barrier], isLineEnd character = false :=
    List.forall_mem_singleton.2 (not_isLineEnd_of_not_isBlank parts.inked)
  have below := lines_append_of_unended unended lower
  rw [List.singleton_append] at below
  have lengths := congrArg List.length upper_eq
  simp only [List.length_append, List.length_singleton] at lengths
  rw [above, linesImporting, linesImporting, whole, below, importingFrom_append,
    ← importingFrom_add]
  congr 1
  cases lines lower with
  | nil =>
    cases rest with
    | nil => cases member
    | cons first rest =>
      simp only [prependLine, List.isEmpty_cons, Bool.false_eq_true, if_false]
      rw [parts.importingFrom_cons member, parts.importingFrom_cons short]
      rfl
  | cons line lines =>
    simp only [prependLine]
    rw [parts.importingFrom_cons (List.mem_append_left _ member),
      parts.importingFrom_cons (List.mem_append_left _ short)]
    congr 1
    simp only [Line.toList, List.length_append, List.length_singleton]
    omega

theorem mem_imports_append_cons (parts : PartsImports barrier className)
    (upper lower : List Char) :
    importLine className ∈ imports (upper ++ barrier :: lower) ↔
      importLine className ∈ imports (upper ++ [barrier]) ∨
        importLine className ∈ imports (barrier :: lower) := by
  simp only [mem_imports_iff, parts.linesImporting_append_cons upper lower, List.mem_append,
    exists_or, List.mem_map]
  refine or_congr_right ?_
  constructor
  · rintro ⟨_, placed, member, rfl⟩
    exact ⟨placed, member⟩
  · rintro ⟨placed, member⟩
    exact ⟨_, placed, member, rfl⟩

theorem finish_le (parts : PartsImports barrier className) {upper : List Char} {placed : Placed}
    (member : placed ∈ linesImporting className (upper ++ [barrier])) :
    placed.finish ≤ upper.length := by
  obtain ⟨closed, rest, upper_eq, inRest, -, above, -⟩ :=
    parts.exists_linesImporting_eq (List.getLast?_concat (l := upper))
  rw [above] at member
  have bound := (placedFrom_bounds (List.mem_filter.1 member).1).2
  have filled := List.length_pos_of_mem inRest
  have lengths := congrArg List.length upper_eq
  simp only [List.length_append, List.length_singleton] at lengths
  omega

theorem start_pos (parts : PartsImports barrier className) {lower : List Char} {placed : Placed}
    (member : placed ∈ linesImporting className (barrier :: lower)) : 0 < placed.start := by
  obtain ⟨line, below, lines_eq, inBody⟩ := parts.exists_lines_cons lower
  rw [linesImporting, lines_eq, parts.importingFrom_cons inBody] at member
  have bound := (placedFrom_bounds (List.mem_filter.1 member).1).1
  have filled := List.length_pos_of_mem inBody
  simp only [Line.toList, List.length_append] at bound
  omega

/-- A line that imports the class needs a line end before it and one after it. -/
theorem length_le (parts : PartsImports barrier className) {other : Char}
    (otherParts : PartsImports other className) {inner : List Char}
    (found : importLine className ∈ imports (barrier :: (inner ++ [other]))) :
    (importLine className).length + 2 ≤ inner.length := by
  obtain ⟨first, below, lines_eq, inFirst⟩ := parts.exists_lines_cons (inner ++ [other])
  obtain ⟨closed, rest, text_eq, inRest, split, -, -⟩ :=
    otherParts.exists_linesImporting_eq (List.getLast?_concat (l := barrier :: inner))
  rw [List.cons_append] at text_eq split
  obtain ⟨line, listed, same⟩ := exists_line_of_mem_imports found
  have areLines := areLines_lines (barrier :: (inner ++ [other]))
  rw [split] at listed areLines
  have inClosed : line ∈ closed := by
    rcases List.mem_append.1 listed with inClosed | isLast
    · exact inClosed
    · rw [List.mem_singleton.1 isLast] at same
      exact absurd same (otherParts.trimRight_ne inRest)
  obtain ⟨above, after, rfl⟩ := List.append_of_mem inClosed
  cases above with
  | nil =>
    have isFirst : line = first := by
      rw [split] at lines_eq
      exact (List.cons.inj lines_eq).1
    exact absurd same (parts.trimRight_ne (isFirst ▸ inFirst))
  | cons begun above =>
    have isFirst : begun = first := by
      rw [split] at lines_eq
      exact (List.cons.inj lines_eq).1
    have firstEnds : begun.ending ≠ [] :=
      @AreLines.ending_ne_nil [] _ begun areLines (by simp)
    have lineEnds : line.ending ≠ [] := by
      rw [List.append_assoc] at areLines
      exact areLines.ending_ne_nil (by simp)
    have firstFilled := List.length_pos_of_mem (isFirst ▸ inFirst : barrier ∈ begun.body)
    have restFilled := List.length_pos_of_mem inRest
    have lengths := congrArg List.length text_eq
    have long : (importLine className).length ≤ line.body.length := by
      obtain ⟨trailing, body_eq, -⟩ := exists_trimRight_append line.body
      rw [same] at body_eq
      rw [body_eq, List.length_append]
      exact Nat.le_add_right _ _
    have firstEnds_pos := List.length_pos_iff.2 firstEnds
    have lineEnds_pos := List.length_pos_iff.2 lineEnds
    simp only [joinLines_append, joinLines_cons, Line.toList, List.length_append,
      List.length_cons, List.length_nil] at lengths
    omega

theorem exists_lt_start_iff (parts : PartsImports barrier className) (upper lower : List Char) :
    (∃ placed ∈ linesImporting className (upper ++ barrier :: lower),
      upper.length < placed.start) ↔ importLine className ∈ imports (barrier :: lower) := by
  rw [mem_imports_iff, parts.linesImporting_append_cons]
  constructor
  · rintro ⟨placed, member, late⟩
    rcases List.mem_append.1 member with above | below
    · have early := parts.finish_le above
      have ordered : placed.start ≤ placed.finish := Nat.le_add_right _ _
      omega
    · obtain ⟨found, listed, -⟩ := List.mem_map.1 below
      exact ⟨found, listed⟩
  · rintro ⟨placed, member⟩
    refine ⟨_, List.mem_append_right _ (List.mem_map_of_mem member), ?_⟩
    have late := parts.start_pos member
    rw [Placed.later_start]
    omega

end PartsImports

/-- An import line that ends in a text is above the line that goes on at its end. -/
theorem mem_placedFrom_of_finish_le {closed : List Line} {rest back : List Char} {placed : Placed}
    (filled : back ≠ [])
    (member : placed ∈ placedFrom 0 (closed ++ prependLine rest (lines back)))
    (early : placed.finish ≤ (joinLines closed ++ rest).length) : placed ∈ placedFrom 0 closed := by
  rw [placedFrom_append, List.mem_append] at member
  rcases member with inClosed | inRest
  · exact inClosed
  · obtain ⟨line, below, lines_eq, lineFilled⟩ := exists_lines_of_ne_nil filled
    rw [lines_eq, prependLine] at inRest
    have late := le_finish_of_mem_placedFrom inRest
    have long := List.length_pos_iff.2 lineFilled
    simp only [Line.toList, List.length_append] at late long early
    omega

/-- What follows a text does not change which of its lines import a class, but for the last. -/
theorem exists_finish_le_iff (parts : PartsImports barrier className) {front : List Char}
    {last : Char} (ends : front.getLast? = some last) (inked : isBlank last = false)
    {back : List Char} (filled : back ≠ []) :
    (∃ placed ∈ linesImporting className (front ++ back), placed.finish ≤ front.length) ↔
      importLine className ∈ imports (front ++ [barrier]) := by
  obtain ⟨closed, rest, front_eq, restEnds, -, split⟩ := exists_lines_append ends inked
  have lengths := congrArg List.length front_eq
  rw [List.length_append] at lengths
  have above : (∃ placed ∈ linesImporting className (front ++ back),
      placed.finish ≤ front.length) ↔ ∃ placed, placed ∈ importingFrom className 0 closed := by
    rw [linesImporting, split]
    constructor
    · rintro ⟨placed, member, early⟩
      obtain ⟨listed, same⟩ := List.mem_filter.1 member
      rw [front_eq] at early
      exact ⟨placed, List.mem_filter.2 ⟨mem_placedFrom_of_finish_le filled listed early, same⟩⟩
    · rintro ⟨placed, member⟩
      have bound := (placedFrom_bounds (List.mem_filter.1 member).1).2
      rw [importingFrom_append]
      exact ⟨placed, List.mem_append_left _ member, by omega⟩
  obtain ⟨line, below, lines_eq, inBody⟩ := parts.exists_lines_cons []
  have below_eq : below = [] := by
    have unended : ∀ character ∈ [barrier], isLineEnd character = false :=
      List.forall_mem_singleton.2 (not_isLineEnd_of_not_isBlank parts.inked)
    have single := lines_append_of_unended unended []
    rw [List.append_nil, lines_eq] at single
    exact (List.cons.inj single).2
  have none (start : Nat) :
      importingFrom className start (prependLine rest (lines [barrier])) = [] := by
    rw [lines_eq, below_eq, prependLine,
      parts.importingFrom_cons (List.mem_append_right _ inBody)]
    rfl
  rw [above, mem_imports_iff, linesImporting, split, importingFrom_append, none,
    List.append_nil]

theorem imports_eq_nil_of_semicolon_not_mem {text : List Char} (absent : ';' ∉ text) :
    imports text = [] := by
  have none : ((lines text).map Line.body).filter isImportLine = [] := by
    rw [List.filter_eq_nil_iff]
    intro body member found
    obtain ⟨line, listed, rfl⟩ := List.mem_map.1 member
    obtain ⟨gap, name, ending, shape⟩ := isImportLine_iff.1 found
    apply absent
    rw [← joinLines_lines text]
    refine List.mem_flatMap.2 ⟨line, listed, List.mem_append_left _ ?_⟩
    rw [shape.line_eq]
    simp
  rw [imports, none, List.map_nil]

theorem semicolon_not_mem_of_isAllBlank {blanks : List Char} (blank : isAllBlank blanks = true) :
    ';' ∉ blanks :=
  fun member => absurd (isAllBlank_iff.1 blank ';' member) (by decide)

theorem semicolon_not_mem_reference {name : List Char} (named : IsName name) : ';' ∉ reference name :=
  PartsReferences.not_mem_reference named ⟨by decide, by decide⟩

namespace PartsImports

theorem ne_semicolon (parts : PartsImports barrier className) : ';' ≠ barrier := by
  rintro rfl
  exact parts.absent (by simp [importLine])

theorem not_mem_importing (parts : PartsImports barrier className) (upper : List Char) :
    barrier ∉ importing upper className := by
  have notFeed : barrier ≠ '\n' := by
    rintro rfl
    exact absurd parts.inked (by decide)
  have inFeed : barrier ∉ importFeed upper := by
    unfold importFeed
    split <;> simp [notFeed]
  simp [importing, inFeed, parts.absent, notFeed]

theorem mem_imports_append_cons_iff (parts : PartsImports barrier className)
    {lower : List Char} (absent : ';' ∉ lower) (upper : List Char) :
    importLine className ∈ imports (upper ++ barrier :: lower) ↔
      importLine className ∈ imports (upper ++ [barrier]) := by
  have none : imports (barrier :: lower) = [] :=
    imports_eq_nil_of_semicolon_not_mem (by simp [parts.ne_semicolon, absent])
  rw [parts.mem_imports_append_cons, none]
  simp

/-- What stands between two such characters and holds no semicolon imports nothing. -/
theorem mem_imports_around (parts : PartsImports barrier className) {other : Char}
    (otherParts : PartsImports other className) {inner : List Char} (absent : ';' ∉ inner)
    (upper lower : List Char) :
    importLine className ∈ imports (upper ++ barrier :: (inner ++ other :: lower)) ↔
      importLine className ∈ imports (upper ++ [barrier]) ∨
        importLine className ∈ imports (other :: lower) := by
  have absentBetween : ';' ∉ inner ++ [other] := by
    simp [otherParts.ne_semicolon, absent]
  rw [← List.cons_append, ← List.append_assoc, otherParts.mem_imports_append_cons,
    List.append_assoc, List.cons_append, parts.mem_imports_append_cons_iff absentBetween]

end PartsImports

end Scaffold.Composition
