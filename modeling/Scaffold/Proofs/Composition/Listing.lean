import Scaffold.Proofs.Composition.Reference

/-!
# Import lines around the list

A reference appended to the list makes none of its lines an import line, however the names and the
blanks around it fall. So the import lines above and below the list stay as they are.
-/

set_option autoImplicit false

namespace Scaffold.Composition

open Text

/-! ## Lines that import nothing -/

def ImportsNothing (pieces : List Line) : Prop :=
  ∀ line ∈ pieces, isImportLine line.body = false

theorem importsNothing_nil : ImportsNothing [] :=
  List.forall_mem_nil _

theorem importsNothing_append {above below : List Line} :
    ImportsNothing (above ++ below) ↔ ImportsNothing above ∧ ImportsNothing below :=
  List.forall_mem_append

theorem importsNothing_cons {line : Line} {lines : List Line} :
    ImportsNothing (line :: lines) ↔ isImportLine line.body = false ∧ ImportsNothing lines :=
  List.forall_mem_cons

theorem not_isImportLine_of_head? {line : List Char} (other : line.head? ≠ some 'u') :
    isImportLine line = false :=
  Bool.eq_false_iff.2 fun found => other (head?_of_isImportLine found)

theorem not_isImportLine_of_isAllBlank {line : List Char} (blank : isAllBlank line = true) :
    isImportLine line = false := by
  refine not_isImportLine_of_head? fun begins => ?_
  have inked := isAllBlank_iff.1 blank 'u' (List.mem_of_head? begins)
  exact absurd inked (by decide)

/-- The last character of an import line that is not blank is its semicolon. -/
theorem not_isImportLine_append_blank {front blanks : List Char} {last : Char}
    (ends : front.getLast? = some last) (inked : isBlank last = false) (other : last ≠ ';')
    (blank : isAllBlank blanks = true) : isImportLine (front ++ blanks) = false := by
  refine Bool.eq_false_iff.2 fun found => ?_
  obtain ⟨gap, name, ending, shape⟩ := isImportLine_iff.1 found
  have trimmed := shape.trimRight_eq
  rw [trimRight_append_of_getLast? ends inked blank] at trimmed
  rw [trimmed, List.getLast?_concat, Option.some.injEq] at ends
  exact other ends.symm

/-! ## Beginnings of lines that import nothing -/

/-- Whether no line that begins with a text imports a class. -/
def BeginsNoImport (front : List Char) : Prop :=
  ∀ back, isImportLine (front ++ back) = false

theorem beginsNoImport_bracket : BeginsNoImport [']'] :=
  fun _ => not_isImportLine_of_head? (by simp)

theorem beginsNoImport_reference {name : List Char} (named : IsName name) :
    BeginsNoImport (reference name) := by
  intro back
  refine Bool.eq_false_iff.2 fun found => ?_
  obtain ⟨gap, imported, ending, shape⟩ := isImportLine_iff.1 found
  -- The blank after the first word of an import line would stand within the reference.
  have line_eq := shape.line_eq
  cases gapText : gap with
  | nil => exact shape.gap_ne_nil gapText
  | cons first gap =>
    have long : importMark.length < (reference name).length := by
      simp only [reference, importMark, referenceMark, List.length_append, List.length_cons]
      omega
    have within : (reference name ++ back)[importMark.length]? = some first := by
      rw [line_eq, gapText]
      simp [importMark]
    have here : (reference name)[importMark.length]? = some first := by
      rwa [List.getElem?_append_left long] at within
    have inked := ((isEntry_reference named).2 first (List.mem_of_getElem? here)).1
    have blank := isAllBlank_iff.1 shape.gap_blank first (by simp [gapText])
    rw [inked] at blank
    cases blank

theorem BeginsNoImport.append {front : List Char} (begins : BeginsNoImport front)
    (back : List Char) : BeginsNoImport (front ++ back) := by
  intro rest
  rw [List.append_assoc]
  exact begins (back ++ rest)

theorem BeginsNoImport.blank_append {front blanks : List Char} (begins : BeginsNoImport front)
    (blank : isAllBlank blanks = true) : BeginsNoImport (blanks ++ front) := by
  intro rest
  cases blanks with
  | nil => exact begins rest
  | cons first blanks =>
    refine not_isImportLine_of_head? fun begun => ?_
    obtain rfl : first = 'u' := by simpa using begun
    exact absurd (isAllBlank_iff.1 blank 'u' List.mem_cons_self) (by decide)

theorem BeginsNoImport.prependLine {front : List Char} {pieces : List Line}
    (begins : BeginsNoImport front) (clear : ImportsNothing pieces.tail) :
    ImportsNothing (prependLine front pieces) := by
  cases pieces with
  | nil =>
    intro line member
    cases front with
    | nil => cases member
    | cons first front =>
      obtain rfl : line = ⟨first :: front, []⟩ := by simpa [Text.prependLine] using member
      simpa using begins []
  | cons line lines => exact importsNothing_cons.2 ⟨begins line.body, clear⟩

/-! ## The lines of the list -/

theorem exists_blank_lines {blanks : List Char} (blank : isAllBlank blanks = true) :
    ∃ above rest, blanks = joinLines above ++ rest ∧
      (∀ character ∈ rest, isLineEnd character = false) ∧
      (∀ line ∈ above, isAllBlank line.body = true) ∧ isAllBlank rest = true ∧
      ∀ (first : Char) (below : List Char), isBlank first = false →
        lines (blanks ++ first :: below) = above ++ prependLine rest (lines (first :: below)) := by
  obtain ⟨above, rest, broken⟩ := exists_breaksInto blanks
  have parts := blank
  rw [broken.text_eq, isAllBlank_append, Bool.and_eq_true] at parts
  refine ⟨above, rest, broken.text_eq, broken.unended, fun line member => ?_, parts.2,
    fun first below inked => ?_⟩
  · refine isAllBlank_iff.2 fun character inBody => isAllBlank_iff.1 parts.1 character ?_
    exact List.mem_flatMap.2 ⟨line, member, List.mem_append_left _ inBody⟩
  · refine broken.lines_append _ fun _ feed => ?_
    obtain rfl : first = '\n' := by simpa using feed
    exact absurd inked (by decide)

private theorem importsNothing_of_isAllBlank {pieces : List Line}
    (blank : ∀ line ∈ pieces, isAllBlank line.body = true) : ImportsNothing pieces :=
  fun line member => not_isImportLine_of_isAllBlank (blank line member)

theorem importsNothing_blank_append {blanks word below : List Char}
    (blank : isAllBlank blanks = true) (filled : word ≠ [])
    (inked : ∀ character ∈ word, isBlank character = false) (begins : BeginsNoImport word)
    (clear : ImportsNothing (lines below).tail) :
    ImportsNothing (lines (blanks ++ (word ++ below))) := by
  obtain ⟨above, rest, -, -, blankAbove, blankRest, split⟩ := exists_blank_lines blank
  have unended : ∀ character ∈ word, isLineEnd character = false :=
    fun character member => not_isLineEnd_of_not_isBlank (inked character member)
  cases word with
  | nil => exact absurd rfl filled
  | cons first word =>
    rw [List.cons_append, split first _ (inked first List.mem_cons_self), ← List.cons_append,
      lines_append_of_unended unended, prependLine_prependLine, importsNothing_append]
    exact ⟨importsNothing_of_isAllBlank blankAbove,
      (begins.blank_append blankRest).prependLine clear⟩

theorem importsNothing_blank_bracket {blanks closing : List Char}
    (blank : isAllBlank blanks = true)
    (unended : ∀ character ∈ closing, isLineEnd character = false) :
    ImportsNothing (lines (blanks ++ ']' :: closing)) := by
  have single : (lines closing).tail = [] := by
    have alone := lines_append_of_unended unended []
    rw [List.append_nil] at alone
    rw [alone]
    cases closing <;> rfl
  have clear : ImportsNothing (lines closing).tail := by
    rw [single]
    exact importsNothing_nil
  exact importsNothing_blank_append blank (List.cons_ne_nil ']' [])
    (List.all_iff_forall_prop.1 (by decide)) beginsNoImport_bracket clear

/-- A line that goes on with blanks up to its end is no import line if it was not to be one. -/
private theorem importsNothing_prependLine_separator {front separator word below : List Char}
    {last : Char} (ends : front.getLast? = some last) (inked : isBlank last = false)
    (other : last ≠ ';') (blank : isAllBlank separator = true)
    (feeds : ∃ character ∈ separator, isLineEnd character = true) (filled : word ≠ [])
    (inkedWord : ∀ character ∈ word, isBlank character = false) (begins : BeginsNoImport word)
    (clear : ImportsNothing (lines below).tail) :
    ImportsNothing (prependLine front (lines (separator ++ (word ++ below)))) := by
  have clearLines := importsNothing_blank_append blank filled inkedWord begins clear
  obtain ⟨above, rest, separator_eq, unended, blankAbove, -, split⟩ := exists_blank_lines blank
  cases word with
  | nil => exact absurd rfl filled
  | cons first word =>
    rw [List.cons_append, split first _ (inkedWord first List.mem_cons_self)] at clearLines ⊢
    cases above with
    | nil =>
      obtain ⟨character, member, isEnd⟩ := feeds
      rw [separator_eq] at member
      rw [unended character (by simpa using member)] at isEnd
      cases isEnd
    | cons line above =>
      rw [List.cons_append, importsNothing_cons] at clearLines
      refine importsNothing_cons.2 ⟨?_, clearLines.2⟩
      exact not_isImportLine_append_blank ends inked other (blankAbove line List.mem_cons_self)

private theorem importsNothing_prependLine_insert {front added : List Char} {pieces : List Line}
    {last : Char} (ends : front.getLast? = some last) (inked : isBlank last = false)
    (parted : last = ',' ∨ added.head? = some ',') (goesOn : ';' ∉ added)
    (filled : isAllBlank added = false) (clear : ImportsNothing (prependLine front pieces)) :
    ImportsNothing (prependLine (front ++ added) pieces) := by
  have insert {back : List Char} (none : isImportLine (front ++ back) = false) :
      isImportLine (front ++ added ++ back) = false := by
    refine Bool.eq_false_iff.2 fun found => ?_
    rw [isImportLine_of_insert ends inked parted goesOn filled found] at none
    cases none
  cases front with
  | nil => cases ends
  | cons first front =>
    cases pieces with
    | nil =>
      have none := clear ⟨first :: front, []⟩ (by simp [prependLine])
      have inserted : isImportLine (first :: front ++ added ++ []) = false :=
        insert (by simpa using none)
      rw [List.append_nil] at inserted
      exact importsNothing_cons.2 ⟨inserted, importsNothing_nil⟩
    | cons line lines =>
      obtain ⟨none, below⟩ := importsNothing_cons.1 clear
      exact importsNothing_cons.2 ⟨insert none, below⟩

private theorem importsNothing_append_listed {name front before separator after below : List Char}
    {last : Char} (named : IsName name) (ends : front.getLast? = some last)
    (inked : isBlank last = false) (parted : before = [','] ∨ before = [] ∧ last = ',')
    (blank : isAllBlank separator = true) (closes : after = [] ∨ after = [','])
    (clearBelow : ImportsNothing (lines below).tail)
    (clear : ImportsNothing (lines (front ++ below))) :
    ImportsNothing
      (lines (front ++ (before ++ (separator ++ (reference name ++ after ++ below))))) := by
  obtain ⟨closed, rest, -, restEnds, -, split⟩ := exists_lines_append ends inked
  have inkedEntry : ∀ character ∈ reference name ++ after, isBlank character = false := by
    intro character member
    rcases List.mem_append.1 member with inReference | inAfter
    · exact ((isEntry_reference named).2 character inReference).1
    · rcases closes with rfl | rfl
      · cases inAfter
      · obtain rfl : character = ',' := by simpa using inAfter
        decide
  have inkedBefore : ∀ character ∈ before, isLineEnd character = false := by
    rcases parted with rfl | ⟨rfl, -⟩ <;> exact List.all_iff_forall_prop.1 (by decide)
  rw [split, importsNothing_append] at clear ⊢
  refine ⟨clear.1, ?_⟩
  rw [lines_append_of_unended inkedBefore, prependLine_prependLine]
  by_cases feeds : ∃ character ∈ separator, isLineEnd character = true
  · have endsComma : (rest ++ before).getLast? = some ',' := by
      rcases parted with rfl | ⟨rfl, rfl⟩
      · simp
      · simpa using restEnds
    exact importsNothing_prependLine_separator endsComma (by decide) (by decide) blank feeds
      (by simp [reference, referenceMark]) inkedEntry ((beginsNoImport_reference named).append _)
      clearBelow
  · -- The reference stands in the line that went on before it was listed.
    have unendedSeparator : ∀ character ∈ separator, isLineEnd character = false :=
      fun character member => Bool.eq_false_iff.2 fun isEnd => feeds ⟨character, member, isEnd⟩
    have unendedEntry : ∀ character ∈ reference name ++ after, isLineEnd character = false :=
      fun character member => not_isLineEnd_of_not_isBlank (inkedEntry character member)
    rw [lines_append_of_unended unendedSeparator, lines_append_of_unended unendedEntry,
      prependLine_prependLine, prependLine_prependLine, List.append_assoc, List.append_assoc]
    refine importsNothing_prependLine_insert restEnds inked ?_ ?_ ?_ clear.2
    · rcases parted with rfl | ⟨-, isComma⟩
      · exact .inr rfl
      · exact .inl isComma
    · have parts : PartsReferences ';' := ⟨by decide, by decide⟩
      have inSeparator : ';' ∉ separator := fun member =>
        absurd (isAllBlank_iff.1 blank ';' member) (by decide)
      have inReference := parts.not_mem_reference named
      rcases parted with rfl | ⟨rfl, -⟩ <;> rcases closes with rfl | rfl <;>
        simp [inSeparator, inReference]
    · have markInked : isAllBlank referenceMark = false := by decide
      simp [reference, markInked]

/-- A text that imports nothing around the list does so with a reference appended to the list. -/
theorem Appended.importsNothing {name opened body newBody closing : List Char}
    (named : IsName name) (appended : Appended (reference name) body newBody)
    (bracketed : opened.getLast? = some '[')
    (unended : ∀ character ∈ closing, isLineEnd character = false)
    (clear : ImportsNothing (lines (opened ++ (body ++ ']' :: closing)))) :
    ImportsNothing (lines (opened ++ (newBody ++ ']' :: closing))) := by
  cases appended with
  | @first _ leading trailing blank blankBefore blankAfter =>
    obtain ⟨closed, rest, -, restEnds, -, split⟩ := exists_lines_append bracketed (by decide)
    have feed : isBlank '\n' = true := by decide
    have endsComma : lines ([','] ++ ['\n'] ++ (trailing ++ ']' :: closing)) =
        ⟨[','], ['\n']⟩ :: lines (trailing ++ ']' :: closing) :=
      lines_append_ending (List.all_iff_forall_prop.1 (by decide))
        (.single (by decide) fun isReturn => absurd isReturn (by decide))
    have clearBelow :
        ImportsNothing (lines ([','] ++ ['\n'] ++ (trailing ++ ']' :: closing))).tail := by
      rw [endsComma]
      exact importsNothing_blank_bracket blankAfter unended
    have blankSeparator : isAllBlank ('\n' :: leading) = true := by simp [feed, blankBefore]
    have listed := importsNothing_prependLine_separator restEnds (by decide) (by decide)
      blankSeparator ⟨'\n', List.mem_cons_self, by decide⟩ (isEntry_reference named).1
      (fun character member => ((isEntry_reference named).2 character member).1)
      (beginsNoImport_reference named) clearBelow
    rw [split, importsNothing_append] at clear ⊢
    exact ⟨clear.1, by simpa using listed⟩
  | @afterEntry filled separator trailing last ends inked other blank apart blankAfter =>
    have clearBelow := importsNothing_blank_bracket blankAfter unended
    have filledEnds : (opened ++ filled).getLast? = some last := by
      rw [List.getLast?_append, ends, Option.some_or]
    have listed := importsNothing_append_listed named filledEnds inked (.inl rfl) blank (.inl rfl)
      (fun line member => clearBelow line (List.mem_of_mem_tail member)) (by simpa using clear)
    simpa using listed
  | @afterComma filled separator trailing ends blank apart blankAfter =>
    have clearBelow := importsNothing_blank_bracket blankAfter unended
    have filledEnds : (opened ++ filled).getLast? = some ',' := by
      rw [List.getLast?_append, ends, Option.some_or]
    have listed := importsNothing_append_listed named filledEnds (by decide) (.inr ⟨rfl, rfl⟩)
      blank (.inr rfl) (fun line member => clearBelow line (List.mem_of_mem_tail member))
      (by simpa using clear)
    simpa using listed

end Scaffold.Composition
