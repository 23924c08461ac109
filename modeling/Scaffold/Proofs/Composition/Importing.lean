import Scaffold.Composition.Document
import Scaffold.Proofs.Composition.Import
import Scaffold.Proofs.Composition.Opening

/-!
# A line put after the last import line

Where the last import line of a text stands, and the import lines of the text with one more put
after it. The line before gets an end if it has none, and all other lines stay as they are.
-/

set_option autoImplicit false

namespace Scaffold.Composition

open Text

/-! ## The last import line -/

theorem lastFinish?_eq_none_iff {placed : List Placed} :
    lastFinish? placed = none ↔ ∀ found ∈ placed, found.endsPlainly = false := by
  simp [lastFinish?]

theorem exists_mem_of_lastFinish? {placed : List Placed} {finish : Nat}
    (found : lastFinish? placed = some finish) : ∃ last ∈ placed, last.finish = finish := by
  obtain ⟨last, here, finish_eq⟩ := Option.map_eq_some_iff.1 found
  exact ⟨last, List.mem_reverse.1 (List.mem_of_find?_eq_some here), finish_eq⟩

/-- The last import line is above a text that is moved, or is moved with it. -/
theorem lastFinish?_append_later {above below : List Placed} {distance finish : Nat}
    (found : lastFinish? (above ++ below.map (Placed.later distance)) = some finish) :
    (∃ last ∈ above, last.finish = finish ∧ ∀ newDistance,
      lastFinish? (above ++ below.map (Placed.later newDistance)) = some finish) ∨
    ∃ inner, finish = distance + inner ∧ ∀ newDistance,
      lastFinish? (above ++ below.map (Placed.later newDistance)) = some (newDistance + inner) := by
  rw [lastFinish?_append, lastFinish?_later] at found
  cases inBelow : lastFinish? below with
  | none =>
    rw [inBelow, Option.map_none, Option.none_or] at found
    obtain ⟨last, member, finish_eq⟩ := exists_mem_of_lastFinish? found
    refine .inl ⟨last, member, finish_eq, fun newDistance => ?_⟩
    rw [lastFinish?_append, lastFinish?_later, inBelow, Option.map_none, Option.none_or, found]
  | some inner =>
    rw [inBelow, Option.map_some, Option.some_or, Option.some.injEq] at found
    refine .inr ⟨inner, found.symm, fun newDistance => ?_⟩
    rw [lastFinish?_append, lastFinish?_later, inBelow, Option.map_some, Option.some_or]

theorem lastFinish?_append_cons {above below : List Placed} {last : Placed}
    (plain : last.endsPlainly = true) (others : ∀ placed ∈ below, placed.endsPlainly = false) :
    lastFinish? (above ++ last :: below) = some last.finish := by
  have single : lastFinish? [last] = some last.finish := by simp [lastFinish?, plain]
  rw [← List.singleton_append, ← List.append_assoc, lastFinish?_append,
    lastFinish?_eq_none_iff.2 others, Option.none_or, lastFinish?_append, single, Option.some_or]

private theorem exists_of_lastFinish? {start finish : Nat} {pieces : List Line}
    (found : lastFinish? (placedFrom start pieces) = some finish) :
    ∃ above line below, pieces = above ++ line :: below ∧ isImportLine line.body = true ∧
      Placed.endsPlainly ⟨start + (joinLines above).length, line⟩ = true ∧
      start + (joinLines (above ++ [line])).length = finish ∧
      lastFinish? (placedFrom finish below) = none := by
  induction pieces generalizing start with
  | nil => cases found
  | cons line lines ih =>
    have split : lastFinish? (placedFrom start (line :: lines)) =
        (lastFinish? (placedFrom (start + line.toList.length) lines)).or
          (lastFinish? (placedFrom start [line])) := by
      rw [← List.singleton_append, placedFrom_append, lastFinish?_append]
      simp
    rw [split] at found
    cases later : lastFinish? (placedFrom (start + line.toList.length) lines) with
    | some position =>
      rw [later, Option.some_or, Option.some.injEq] at found
      subst found
      obtain ⟨above, last, below, rfl, imports, plain, length_eq, none⟩ := ih later
      refine ⟨line :: above, last, below, rfl, imports, plain, ?_, none⟩
      rw [List.cons_append, joinLines_cons, List.length_append, ← length_eq, Nat.add_assoc]
    | none =>
      rw [later, Option.none_or] at found
      by_cases imports : isImportLine line.body = true
      · cases plain : Placed.endsPlainly ⟨start, line⟩ with
        | false => simp [placedFrom, imports, lastFinish?, plain] at found
        | true =>
          have finish_eq : start + line.toList.length = finish := by
            simpa [placedFrom, imports, lastFinish?, plain, Placed.finish] using found
          refine ⟨[], line, lines, rfl, imports, plain, by simpa using finish_eq, ?_⟩
          rwa [← finish_eq]
      · simp [placedFrom, imports, lastFinish?] at found

theorem exists_of_importsEnd? {upper lower : List Char}
    (found : importsEnd? (upper ++ lower) = some upper.length) :
    ∃ above line below, lines (upper ++ lower) = above ++ line :: below ∧
      upper = joinLines (above ++ [line]) ∧ lower = joinLines below ∧
      isImportLine line.body = true ∧
      Placed.endsPlainly ⟨(joinLines above).length, line⟩ = true ∧
      ∀ placed ∈ placedFrom upper.length below, placed.endsPlainly = false := by
  rw [importsEnd?_eq] at found
  obtain ⟨above, line, below, lines_eq, imports, plain, length_eq, none⟩ :=
    exists_of_lastFinish? found
  rw [Nat.zero_add] at length_eq plain
  have whole : upper ++ lower = joinLines (above ++ [line]) ++ joinLines below := by
    rw [← joinLines_append, List.append_assoc, List.singleton_append, ← lines_eq, joinLines_lines]
  obtain ⟨upper_eq, lower_eq⟩ := List.append_inj whole length_eq.symm
  exact ⟨above, line, below, lines_eq, upper_eq, lower_eq, imports, plain,
    lastFinish?_eq_none_iff.1 none⟩

/-- In a text without returns a feed ends the last import line, unless the text ends there. -/
theorem getLast?_of_importsEnd? {upper lower : List Char}
    (found : importsEnd? (upper ++ lower) = some upper.length) (noReturn : '\r' ∉ upper)
    (filled : lower ≠ []) : upper.getLast? = some '\n' := by
  obtain ⟨above, line, below, lines_eq, upper_eq, lower_eq, -, plain, -⟩ :=
    exists_of_importsEnd? found
  have areLines := areLines_lines (upper ++ lower)
  rw [lines_eq] at areLines
  have areFrom : AreLines (line :: below) := areLines.of_append
  rw [joinLines_append, joinLines_cons, joinLines_nil, List.append_nil] at upper_eq
  cases areFrom with
  | last => exact absurd lower_eq filled
  | @cons body ending _ _ ends _ =>
    have inUpper : ∀ character ∈ ending, character ∈ upper := fun character member => by
      rw [upper_eq]
      exact List.mem_append_right _ (List.mem_append_right _ member)
    cases ends with
    | returnFeed => exact absurd (inUpper '\r' (by simp)) noReturn
    | @single character _ _ _ =>
      have isPlain : character = '\r' ∨ character = '\n' := by
        simpa [Placed.endsPlainly] using plain
      rcases isPlain with rfl | rfl
      · exact absurd (inUpper '\r' (by simp)) noReturn
      · rw [upper_eq, Line.toList, ← List.append_assoc, List.getLast?_concat]

/-! ## The line put after it -/

/-- The end that a text needs before another line. -/
def importFeed (upper : List Char) : List Char :=
  if upper.getLast? = some '\n' then [] else ['\n']

/-- What is put after a text to import a class below it. -/
def importing (upper className : List Char) : List Char :=
  importFeed upper ++ importLine className ++ ['\n']

theorem isLineEnd_importLine {className : List Char}
    (inked : ∀ character ∈ className, isBlank character = false) :
    ∀ character ∈ importLine className, isLineEnd character = false := by
  have mark : ∀ character ∈ ['u', 's', 'e', ' '], isLineEnd character = false :=
    List.all_iff_forall_prop.1 (by decide)
  intro character member
  simp only [importLine, List.mem_append] at member
  rcases member with (inMark | inName) | isEnd
  · exact mark character inMark
  · exact not_isLineEnd_of_not_isBlank (inked character inName)
  · obtain rfl : character = ';' := by simpa using isEnd
    decide

theorem importFeed_append {upper : List Char} {last : Char} {ending : List Char}
    (ends : ending.getLast? = some last) :
    importFeed (upper ++ ending) = if last = '\n' then [] else ['\n'] := by
  simp [importFeed, List.getLast?_append, ends]

private theorem endsLine_importFeed {above line : List Char} {ending : List Char}
    {below : List Line} (areLines : AreLines (⟨line, ending⟩ :: below)) (filled : line ≠ [])
    (plain : ending.all fun character => character == '\r' || character == '\n')
    (text : List Char) :
    EndsLine (ending ++ importFeed (above ++ (line ++ ending))) text := by
  have feed : EndsLine ['\n'] text :=
    .single (by decide) fun isReturn => absurd isReturn (by decide)
  cases areLines with
  | last _ unended =>
    cases last : line.getLast? with
    | none => exact absurd (List.getLast?_eq_none_iff.1 last) filled
    | some character =>
      have goesOn := unended character (List.mem_of_getLast? last)
      have notFeed : character ≠ '\n' := by
        rintro rfl
        exact absurd goesOn (by decide)
      rw [List.append_nil, importFeed_append last, if_neg notFeed]
      exact feed
  | cons _ ends _ =>
    rw [← List.append_assoc]
    cases ends with
    | returnFeed =>
      have ends : ['\r', '\n'].getLast? = some '\n' := rfl
      rw [importFeed_append ends, if_pos rfl]
      exact .returnFeed
    | @single character _ isEnd alone =>
      have isPlain : character = '\r' ∨ character = '\n' := by simpa using plain
      rw [importFeed_append List.getLast?_singleton]
      rcases isPlain with rfl | rfl
      · exact .returnFeed
      · exact feed

theorem lines_importing {above below : List Line} {line : Line} {className : List Char}
    (areLines : AreLines (above ++ line :: below)) (imports : isImportLine line.body = true)
    (plain : Placed.endsPlainly ⟨0, line⟩ = true)
    (inked : ∀ character ∈ className, isBlank character = false) :
    lines (joinLines (above ++ [line]) ++
        (importing (joinLines (above ++ [line])) className ++ joinLines below)) =
      above ++ ⟨line.body, line.ending ++ importFeed (joinLines (above ++ [line]))⟩ ::
        ⟨importLine className, ['\n']⟩ :: below := by
  refine lines_eq_iff.2 ⟨?_, ?_⟩
  · have areFrom : AreLines (line :: below) := areLines.of_append
    have areBelow : AreLines below := by
      rw [← List.singleton_append] at areFrom
      exact areFrom.of_append
    have begins : ∀ rest : List Char, (line.body ++ rest).head? = some 'u' := by
      intro rest
      rw [List.head?_append, head?_of_isImportLine imports, Option.some_or]
    have filled : line.body ≠ [] := by
      intro empty
      simpa [empty] using begins []
    have unended : ∀ character ∈ line.body, isLineEnd character = false := by
      cases areFrom with
      | last _ unended => exact unended
      | cons unended _ _ => exact unended
    have areNew : AreLines (⟨line.body,
        line.ending ++ importFeed (joinLines (above ++ [line]))⟩ ::
          ⟨importLine className, ['\n']⟩ :: below) := by
      refine .cons unended ?_ (.cons (isLineEnd_importLine inked)
        (.single (by decide) fun isReturn => absurd isReturn (by decide)) areBelow)
      rw [joinLines_append, joinLines_cons, joinLines_nil, List.append_nil]
      exact endsLine_importFeed areFrom filled plain _
    refine areLines.replace (by simp) areNew fun feed => ?_
    rw [joinLines_cons, Line.toList, List.append_assoc, begins] at feed
    exact absurd feed (by decide)
  · simp [importing, Line.toList]

theorem exists_placedImports_importing {upper lower : List Char}
    (found : importsEnd? (upper ++ lower) = some upper.length) :
    ∃ above last below, placedImports (upper ++ lower) = above ++ last :: below ∧
      (∀ placed ∈ above, placed.finish ≤ last.start) ∧ last.finish = upper.length ∧
      (∀ placed ∈ below, upper.length ≤ placed.start ∧ placed.endsPlainly = false) ∧
      ∀ {className : List Char}, IsClassName className →
        placedImports (upper ++ (importing upper className ++ lower)) =
          above ++ ⟨last.start, ⟨last.line.body, last.line.ending ++ importFeed upper⟩⟩ ::
            ⟨upper.length + (importFeed upper).length, ⟨importLine className, ['\n']⟩⟩ ::
              below.map (Placed.later (importing upper className).length) := by
  obtain ⟨above, line, below, lines_eq, rfl, rfl, imports, plain, others⟩ :=
    exists_of_importsEnd? found
  have areLines := areLines_lines (joinLines (above ++ [line]) ++ joinLines below)
  rw [lines_eq] at areLines
  refine ⟨placedFrom 0 above, ⟨(joinLines above).length, line⟩,
    placedFrom (joinLines (above ++ [line])).length below, ?_, ?_, ?_, ?_, ?_⟩
  · rw [placedImports, lines_eq, placedFrom_append]
    simp [placedFrom, imports]
  · intro placed member
    simpa using (placedFrom_bounds member).2
  · simp [Placed.finish]
  · intro placed member
    exact ⟨(placedFrom_bounds member).1, others placed member⟩
  · intro className named
    rw [placedImports, lines_importing areLines imports plain named.inked, placedFrom_append,
      ← placedFrom_add]
    simp only [placedFrom, imports, isImportLine_importLine named, if_true]
    have start_eq : 0 + (joinLines above).length +
        (Line.toList ⟨line.body,
          line.ending ++ importFeed (joinLines (above ++ [line]))⟩).length =
        (joinLines (above ++ [line])).length +
          (importFeed (joinLines (above ++ [line]))).length := by
      simp only [Line.toList, joinLines_append, joinLines_cons, joinLines_nil, List.append_nil,
        List.length_append]
      omega
    have below_eq : (joinLines (above ++ [line])).length +
        (importFeed (joinLines (above ++ [line]))).length +
          (Line.toList ⟨importLine className, ['\n']⟩).length =
        (importing (joinLines (above ++ [line])) className).length +
          (joinLines (above ++ [line])).length := by
      simp only [Line.toList, importing, List.length_append]
      omega
    rw [start_eq, below_eq, Nat.zero_add]

theorem importsEnd?_importing {upper lower className : List Char}
    (found : importsEnd? (upper ++ lower) = some upper.length) (named : IsClassName className) :
    importsEnd? (upper ++ (importing upper className ++ lower)) =
      some (upper ++ importing upper className).length := by
  obtain ⟨above, last, below, -, -, -, others, split⟩ := exists_placedImports_importing found
  rw [importsEnd?_eq, split named, ← List.singleton_append, ← List.append_assoc,
    lastFinish?_append_cons rfl]
  · simp only [Placed.finish, Line.toList, importing, List.length_append, List.length_cons,
      List.length_nil, Option.some.injEq]
    omega
  · intro placed member
    obtain ⟨old, inBelow, rfl⟩ := List.mem_map.1 member
    exact (others old inBelow).2

theorem trimRight_importLine (className : List Char) :
    trimRight (importLine className) = importLine className := by
  refine trimRight_eq_self fun last ends => ?_
  rw [importLine, List.getLast?_concat, Option.some.injEq] at ends
  rw [← ends]
  decide

theorem exists_imports_importing {upper lower className : List Char}
    (found : importsEnd? (upper ++ lower) = some upper.length) (named : IsClassName className) :
    ∃ above below, imports (upper ++ lower) = above ++ below ∧
      imports (upper ++ (importing upper className ++ lower)) =
        above ++ importLine className :: below := by
  obtain ⟨above, last, below, placed_eq, -, -, -, split⟩ := exists_placedImports_importing found
  refine ⟨(above ++ [last]).map (fun placed => trimRight placed.line.body),
    below.map (fun placed => trimRight placed.line.body), ?_, ?_⟩
  · rw [imports_eq, placed_eq]
    simp
  · rw [imports_eq, split named]
    simp [trimRight_importLine]

/-- An import line of a text with a class imported is an old one above the end of the imports or
below it, or stands from the last old one to the new end. -/
theorem exists_of_mem_placedImports_importing {upper lower className : List Char}
    (found : importsEnd? (upper ++ lower) = some upper.length) (named : IsClassName className)
    {placed : Placed}
    (member : placed ∈ placedImports (upper ++ (importing upper className ++ lower))) :
    ∃ old ∈ placedImports (upper ++ lower),
      (placed = old ∧ old.finish ≤ upper.length) ∨
      (old.finish = upper.length ∧ old.start ≤ placed.start ∧
        placed.finish ≤ (upper ++ importing upper className).length) ∨
      (upper.length ≤ old.start ∧ placed = old.later (importing upper className).length) := by
  obtain ⟨above, last, below, placed_eq, ordered, finish, others, split⟩ :=
    exists_placedImports_importing found
  have isLast : last ∈ placedImports (upper ++ lower) := by
    rw [placed_eq]
    exact List.mem_append_right _ List.mem_cons_self
  have last_ordered : last.start ≤ last.finish := Nat.le_add_right _ _
  rw [split named, List.mem_append, List.mem_cons, List.mem_cons, List.mem_map] at member
  rcases member with inAbove | rfl | rfl | ⟨old, inBelow, rfl⟩
  · have bound := ordered placed inAbove
    refine ⟨placed, ?_, .inl ⟨rfl, by omega⟩⟩
    rw [placed_eq]
    exact List.mem_append_left _ inAbove
  · refine ⟨last, isLast, .inr (.inl ⟨finish, Nat.le_refl _, ?_⟩)⟩
    simp only [Placed.finish, Line.toList, importing, List.length_append] at finish ⊢
    omega
  · refine ⟨last, isLast, .inr (.inl ⟨finish, ?_, ?_⟩)⟩
    · show last.start ≤ upper.length + (importFeed upper).length
      omega
    · simp only [Placed.finish, Line.toList, importing, List.length_append, List.length_cons,
        List.length_nil]
      omega
  · refine ⟨old, ?_, .inr (.inr ⟨(others old inBelow).1, rfl⟩)⟩
    rw [placed_eq]
    exact List.mem_append_right _ (List.mem_cons_of_mem _ inBelow)

/-! ## No opening of the list -/

theorem endsStatement_of_isImportLine {line blanks : List Char}
    (imports : isImportLine line = true) (blank : isAllBlank blanks = true) (front : List Char) :
    EndsStatement (front ++ (line ++ blanks)) := by
  obtain ⟨gap, name, ending, shape⟩ := isImportLine_iff.1 imports
  have endingBlank : isAllBlank ending = true := isAllBlank_iff.2 fun character member => by
    rcases shape.ending_plain character member with rfl | rfl <;> decide
  refine ⟨front ++ (importMark ++ gap ++ name), ending ++ blanks, ?_, by simp [endingBlank, blank]⟩
  rw [shape.line_eq]
  simp

theorem endsStatement_of_importsEnd? {upper lower : List Char}
    (found : importsEnd? (upper ++ lower) = some upper.length) : EndsStatement upper := by
  obtain ⟨above, line, below, -, upper_eq, -, imports, plain, -⟩ := exists_of_importsEnd? found
  have blank : isAllBlank line.ending = true := by
    have returnOrFeed := List.all_eq_true.1 plain
    refine isAllBlank_iff.2 fun character member => ?_
    have isPlain : character = '\r' ∨ character = '\n' := by simpa using returnOrFeed character member
    rcases isPlain with rfl | rfl <;> decide
  rw [upper_eq, joinLines_append, joinLines_cons, joinLines_nil, List.append_nil]
  exact endsStatement_of_isImportLine imports blank _

theorem endsStatement_importing {className : List Char} (named : IsClassName className)
    (upper : List Char) : EndsStatement (upper ++ importing upper className) := by
  have feed : isAllBlank ['\n'] = true := by decide
  have ended := endsStatement_of_isImportLine (isImportLine_importLine named) feed
    (upper ++ importFeed upper)
  simpa [importing] using ended

theorem colon_not_mem_importing {className : List Char} (named : IsClassName className)
    (upper : List Char) : ':' ∉ importing upper className := by
  have inName : ':' ∉ className := named.not_mem (by decide) (by decide)
  have inFeed : ':' ∉ importFeed upper := by
    unfold importFeed
    split <;> decide
  simp [importing, importLine, inName, inFeed]

end Scaffold.Composition
