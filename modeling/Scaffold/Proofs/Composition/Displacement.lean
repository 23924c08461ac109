import Scaffold.Proofs.Composition.Parting
import Scaffold.Proofs.Composition.Recovery

/-!
# An import line put into the list

If the last import line ends in the list, the new one is put there and moves what follows it. The list
is then taken to end where it ended before, and what was moved over this end stays behind the new
entries: an import line and an entry cannot both be among it.
-/

set_option autoImplicit false

namespace Scaffold.Composition

open Text

variable {className name : List Char} {insertion moved rest unread : List Char}

/-! ## What is left behind -/

/-- Whether a text is the end of what was not read after an insertion, and no longer than this. -/
structure IsMoved (insertion unread moved : List Char) : Prop where
  suffix : moved <:+ insertion ++ unread
  length_eq : moved.length = insertion.length

theorem isMoved_drop (insertion unread : List Char) :
    IsMoved insertion unread ((insertion ++ unread).drop unread.length) := by
  refine ⟨List.drop_suffix _ _, ?_⟩
  rw [List.length_drop, List.length_append]
  omega

/-- What stands behind a comma was not read, since there is none in the insertion. -/
theorem IsMoved.exists_unread_eq (isMoved : IsMoved insertion unread moved)
    (absent : ',' ∉ insertion) {above below : List Char} (moved_eq : moved = above ++ ',' :: below) :
    ∃ front, unread = front ++ ',' :: below := by
  obtain ⟨upper, split⟩ := isMoved.suffix
  rw [moved_eq, ← List.append_assoc] at split
  rcases List.append_eq_append_iff.1 split with
    ⟨between, insertion_eq, unread_eq⟩ | ⟨front, -, unread_eq⟩
  · cases between with
    | nil => exact ⟨[], unread_eq.symm⟩
    | cons first between =>
      obtain ⟨rfl, -⟩ := List.cons_eq_cons.1 unread_eq
      exact absurd (insertion_eq ▸ List.mem_append_right _ List.mem_cons_self) absent
  · exact ⟨front, unread_eq⟩

/-- The end of a text behind its last comma is all that is moved if it is not moved as a whole. -/
theorem IsMoved.isAllBlank_or {front trailing : List Char}
    (isMoved : IsMoved insertion (front ++ ',' :: trailing) moved)
    (blank : isAllBlank trailing = true) :
    isAllBlank moved = true ∨ ∃ above, moved = above ++ ',' :: trailing := by
  obtain ⟨upper, split⟩ := isMoved.suffix
  rw [← List.append_assoc] at split
  rcases List.append_eq_append_iff.1 split with ⟨between, -, moved_eq⟩ | ⟨between, -, moved_eq⟩
  · exact .inr ⟨between, moved_eq⟩
  · cases between with
    | nil => exact .inr ⟨[], moved_eq.symm⟩
    | cons first between =>
      obtain ⟨-, rfl⟩ := List.cons_eq_cons.1 moved_eq
      have parts : isAllBlank (between ++ moved) = true := blank
      rw [isAllBlank_append, Bool.and_eq_true] at parts
      exact .inl parts.2

/-- An entry is alone between two commas only if nothing but blanks follow it. -/
theorem isAllBlank_of_mem_entries {leading entry back : List Char} (isEntry : IsEntry entry)
    (blank : isAllBlank leading = true) (absent : ',' ∉ back)
    (listed : entry ∈ entries (leading ++ (entry ++ back))) : isAllBlank back = true := by
  have inEntry : ',' ∉ entry := fun member => (isEntry.2 ',' member).2 rfl
  have noComma : ',' ∉ leading ++ (entry ++ back) := by
    simp [comma_not_mem_of_isAllBlank blank, inEntry, absent]
  have trimmed : trim (leading ++ (entry ++ back)) = trimRight (entry ++ back) := by
    obtain ⟨first, others, entry_eq⟩ := List.exists_cons_of_ne_nil isEntry.1
    have inked := (isEntry.2 first (entry_eq ▸ List.mem_cons_self)).1
    rw [trim, trimLeft_append blank, entry_eq, List.cons_append, trimLeft_cons inked]
  rw [entries_of_comma_not_mem noComma, trimmed] at listed
  obtain ⟨trailing, split, blankAfter⟩ := exists_trimRight_append (entry ++ back)
  have same : entry = trimRight (entry ++ back) := by
    split at listed
    · cases listed
    · exact List.mem_singleton.1 listed
  rw [← same, List.append_cancel_left_eq] at split
  rwa [split]

/-! ## Too little room for an import line -/

/-- Between two commas there is no room for an import line in what was moved. -/
theorem not_mem_imports_of_short (classNamed : IsClassName className)
    {upper inner short lower : List Char} {barrier : Char}
    (parts : PartsImports barrier className) (absent : ';' ∉ inner)
    (above : importLine className ∉ imports (upper ++ [',']))
    (little : short.length < (importLine className).length + 2)
    (below : importLine className ∉ imports (barrier :: lower)) :
    importLine className ∉
      imports (upper ++ ',' :: (inner ++ ',' :: (short ++ barrier :: lower))) := by
  intro found
  rw [classNamed.parts_comma.mem_imports_around classNamed.parts_comma absent] at found
  rcases found with inUpper | inLower
  · exact above inUpper
  · rw [← List.cons_append, parts.mem_imports_append_cons] at inLower
    rcases inLower with between | inLower
    · have room := classNamed.parts_comma.length_le parts between
      omega
    · exact below inLower

/-! ## An entry and what was moved behind it -/

section

variable {front filled separator trailing inside : List Char}

private theorem semicolon_not_mem_listed (named : IsName name)
    (blankBetween : isAllBlank separator = true) {blanks : List Char}
    (blank : isAllBlank blanks = true) : ';' ∉ separator ++ (reference name ++ blanks) := by
  rw [List.mem_append, List.mem_append]
  simp only [semicolon_not_mem_of_isAllBlank blankBetween, semicolon_not_mem_reference named,
    semicolon_not_mem_of_isAllBlank blank, or_self, not_false_eq_true]

/-- A class that is new is imported neither above the last entry nor below the list. -/
private theorem not_mem_imports_beside {last : Char} (classNamed : IsClassName className)
    (ends : filled.getLast? = some last) (inked : isBlank last = false)
    (fresh : importLine className ∉ imports (front ++ ((filled ++ trailing) ++ ']' :: rest))) :
    importLine className ∉ imports (front ++ filled ++ [',']) ∧
      importLine className ∉ imports (']' :: rest) := by
  constructor
  · intro found
    have frontEnds : (front ++ filled).getLast? = some last := by
      rw [List.getLast?_append, ends, Option.some_or]
    have filledBack : trailing ++ ']' :: rest ≠ [] := by simp
    obtain ⟨placed, member, -⟩ :=
      (exists_finish_le_iff classNamed.parts_comma frontEnds inked filledBack).2 found
    exact fresh (mem_imports_iff.2 ⟨placed, by simpa using member⟩)
  · intro found
    have whole := (classNamed.parts_closing.mem_imports_append_cons
      (front ++ (filled ++ trailing)) rest).2 (.inr found)
    exact fresh (by simpa using whole)

/-- If a new entry is found after the last one, nothing but blanks follow it up to the next comma. -/
private theorem isAllBlank_or_of_listed (isMoved : IsMoved insertion unread moved)
    (noComma : ',' ∉ insertion) (named : IsName name) (blankBetween : isAllBlank separator = true)
    (blankAfter : isAllBlank trailing = true) (body_eq : filled ++ trailing = inside ++ unread)
    (unlisted : reference name ∉ entries (filled ++ trailing))
    (listed : reference name ∈
      entries (filled ++ ',' :: separator ++ reference name ++ trailing ++ moved)) :
    isAllBlank (trailing ++ moved) = true ∨
      ∃ first others, moved = first ++ ',' :: others ∧ isAllBlank (trailing ++ first) = true := by
  have isEntry := isEntry_reference named
  have noCommaAfter := comma_not_mem_of_isAllBlank blankAfter
  have filledListed : entries (filled ++ trailing) = entries filled :=
    entries_append_blank blankAfter filled
  rw [List.append_assoc, List.append_assoc, List.append_assoc, List.cons_append,
    entries_append_comma, List.mem_append, ← filledListed] at listed
  have behind := listed.resolve_left unlisted
  by_cases member : ',' ∈ moved
  · obtain ⟨first, others, rfl, absent⟩ := List.eq_append_cons_of_mem member
    obtain ⟨begun, rfl⟩ := isMoved.exists_unread_eq noComma rfl
    have parted : separator ++ (reference name ++ (trailing ++ (first ++ ',' :: others))) =
        (separator ++ (reference name ++ (trailing ++ first))) ++ ',' :: others := by simp
    rw [parted, entries_append_comma, List.mem_append] at behind
    rw [body_eq, ← List.append_assoc, entries_append_comma, List.mem_append, not_or] at unlisted
    have alone := behind.resolve_right unlisted.2
    exact .inr ⟨first, others, rfl,
      isAllBlank_of_mem_entries isEntry blankBetween (by simp [noCommaAfter, absent]) alone⟩
  · exact .inl
      (isAllBlank_of_mem_entries isEntry blankBetween (by simp [noCommaAfter, member]) behind)

/-- An entry that is put after another one and an import line are not both found in a list from which
something was moved. -/
private theorem not_mem_imports_afterEntry {last : Char}
    (isMoved : IsMoved insertion unread moved) (noComma : ',' ∉ insertion)
    (short : insertion.length ≤ (importLine className).length + 2)
    (classNamed : IsClassName className) (named : IsName name)
    (ends : filled.getLast? = some last) (inked : isBlank last = false)
    (blankBetween : isAllBlank separator = true) (blankAfter : isAllBlank trailing = true)
    (fresh : importLine className ∉ imports (front ++ ((filled ++ trailing) ++ ']' :: rest)))
    (body_eq : filled ++ trailing = inside ++ unread)
    (unlisted : reference name ∉ entries (filled ++ trailing))
    (listed : reference name ∈
      entries (filled ++ ',' :: separator ++ reference name ++ trailing ++ moved)) :
    importLine className ∉ imports
      (front ++ ((filled ++ ',' :: separator ++ reference name ++ trailing) ++
        (moved ++ ']' :: rest))) := by
  have comma := classNamed.parts_comma
  have closing := classNamed.parts_closing
  obtain ⟨above, below⟩ := not_mem_imports_beside classNamed ends inked fresh
  rcases isAllBlank_or_of_listed isMoved noComma named blankBetween blankAfter body_eq unlisted
    listed with blank | ⟨first, others, rfl, blank⟩
  · have noSemicolon := semicolon_not_mem_listed named blankBetween blank
    have none := (comma.mem_imports_around closing noSemicolon (front ++ filled) rest).not.2
      (not_or.2 ⟨above, below⟩)
    simpa using none
  · have noSemicolon := semicolon_not_mem_listed named blankBetween blank
    have little := isMoved.length_eq
    rw [List.length_append, List.length_cons] at little
    have few : others.length < (importLine className).length + 2 := by omega
    have none := not_mem_imports_of_short classNamed closing noSemicolon above few below
    simpa using none

/-- The last import line ends above the last comma, since it does not end in one. -/
private theorem exists_unread_eq_append_comma {upper : List Char}
    (blankAfter : isAllBlank trailing = true)
    (body_eq : upper ++ [','] ++ trailing = inside ++ unread)
    (statement : EndsStatement (front ++ inside)) : ∃ begun, unread = begun ++ ',' :: trailing := by
  have notInside {between : List Char} (blank : isAllBlank between = true) :
      inside ≠ upper ++ [','] ++ between := by
    rintro rfl
    have frontEnds : (front ++ (upper ++ [','])).getLast? = some ',' := by simp
    rw [← List.append_assoc] at statement
    exact not_endsStatement_append_blank frontEnds (by decide) (by decide) blank statement
  rcases List.append_eq_append_iff.1 body_eq with ⟨between, inside_eq, trailing_eq⟩ |
    ⟨between, upper_eq, unread_eq⟩
  · rw [trailing_eq, isAllBlank_append, Bool.and_eq_true] at blankAfter
    exact absurd inside_eq (notInside blankAfter.1)
  · rcases List.eq_nil_or_concat between with rfl | ⟨begun, last, rfl⟩
    · exact absurd (by simpa using upper_eq.symm) (notInside isAllBlank_nil)
    · rw [List.concat_eq_append, ← List.append_assoc] at upper_eq
      obtain ⟨-, last_eq⟩ := List.append_inj' upper_eq rfl
      refine ⟨begun, ?_⟩
      rw [unread_eq, List.concat_eq_append, ← last_eq, List.append_assoc,
        List.singleton_append]

private theorem not_mem_imports_afterComma (isMoved : IsMoved insertion unread moved)
    (short : insertion.length ≤ (importLine className).length + 2)
    (classNamed : IsClassName className) (named : IsName name)
    (ends : filled.getLast? = some ',')
    (blankBetween : isAllBlank separator = true) (blankAfter : isAllBlank trailing = true)
    (fresh : importLine className ∉ imports (front ++ ((filled ++ trailing) ++ ']' :: rest)))
    (body_eq : filled ++ trailing = inside ++ unread)
    (statement : EndsStatement (front ++ inside)) :
    importLine className ∉ imports
      (front ++ ((filled ++ separator ++ reference name ++ ',' :: trailing) ++
        (moved ++ ']' :: rest))) := by
  have comma := classNamed.parts_comma
  have closing := classNamed.parts_closing
  have noSemicolon : ';' ∉ separator ++ reference name := by
    simpa using semicolon_not_mem_listed named blankBetween isAllBlank_nil
  have noSemicolonAfter := semicolon_not_mem_of_isAllBlank blankAfter
  obtain ⟨upper, rfl⟩ := List.getLast?_eq_some_iff.1 ends
  obtain ⟨begun, rfl⟩ := exists_unread_eq_append_comma blankAfter body_eq statement
  have whole : front ++ ((upper ++ [','] ++ trailing) ++ ']' :: rest) =
      (front ++ upper) ++ ',' :: (trailing ++ ']' :: rest) := by simp
  rw [whole, comma.mem_imports_around closing noSemicolonAfter, not_or] at fresh
  obtain ⟨above, below⟩ := fresh
  have newText : front ++ ((upper ++ [','] ++ separator ++ reference name ++ ',' :: trailing) ++
      (moved ++ ']' :: rest)) = (front ++ upper) ++ ',' :: ((separator ++ reference name) ++
        ',' :: (trailing ++ (moved ++ ']' :: rest))) := by simp
  rw [newText]
  rcases isMoved.isAllBlank_or blankAfter with blank | ⟨first, rfl⟩
  · have absent : ';' ∉ (separator ++ reference name) ++ ',' :: (trailing ++ moved) := by
      rw [List.mem_append, not_or]
      simp [noSemicolon, noSemicolonAfter, semicolon_not_mem_of_isAllBlank blank]
    have none := (comma.mem_imports_around closing absent (front ++ upper) rest).not.2
      (not_or.2 ⟨above, below⟩)
    simpa using none
  · have little := isMoved.length_eq
    rw [List.length_append, List.length_cons] at little
    have belowComma : importLine className ∉ imports (',' :: (trailing ++ ']' :: rest)) := by
      have alone : imports ([] ++ [',']) = [] :=
        imports_eq_nil_of_semicolon_not_mem (by decide)
      have around := comma.mem_imports_around closing noSemicolonAfter [] rest
      rw [alone] at around
      exact fun found => below (by simpa using around.1 found)
    have few : (trailing ++ first).length < (importLine className).length + 2 := by
      rw [List.length_append]
      omega
    have none := not_mem_imports_of_short classNamed comma noSemicolon above few belowComma
    simpa using none

end

/-- If the last import line ends in the list and the class is new to both places, it is not found in
both of them afterwards. -/
theorem not_mem_imports_of_inside {front inside newBody : List Char}
    (appended : Appended (reference name) (inside ++ unread) newBody)
    (isMoved : IsMoved (importing (front ++ inside) className) unread moved)
    (classNamed : IsClassName className) (named : IsName name)
    (filled : isAllBlank (inside ++ unread) = false)
    (statement : EndsStatement (front ++ inside))
    (fresh : importLine className ∉ imports (front ++ ((inside ++ unread) ++ ']' :: rest)))
    (unlisted : reference name ∉ entries (inside ++ unread))
    (listed : reference name ∈ entries (newBody ++ moved)) :
    importLine className ∉ imports (front ++ (newBody ++ (moved ++ ']' :: rest))) := by
  have short : (importing (front ++ inside) className).length ≤
      (importLine className).length + 2 := by
    have feed : (importFeed (front ++ inside)).length ≤ 1 := by
      unfold importFeed
      split <;> simp
    simp only [importing, List.length_append, List.length_singleton]
    omega
  have noComma := classNamed.parts_comma.not_mem_importing (front ++ inside)
  generalize body_eq : inside ++ unread = body at appended filled fresh unlisted
  cases appended with
  | first blank =>
    rw [blank] at filled
    cases filled
  | afterEntry ends inked _ blankBetween _ blankAfter =>
    exact not_mem_imports_afterEntry isMoved noComma short classNamed named ends inked
      blankBetween blankAfter fresh body_eq.symm unlisted listed
  | afterComma ends blankBetween _ blankAfter =>
    exact not_mem_imports_afterComma isMoved short classNamed named ends blankBetween blankAfter
      fresh body_eq.symm statement

end Scaffold.Composition
