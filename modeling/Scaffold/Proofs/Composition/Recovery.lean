import Mathlib.Data.List.Basic
import Scaffold.Proofs.Composition.Reading
import Scaffold.Proofs.Composition.Run

/-!
# Texts recovered after a registration

A text is recovered if nothing but the import line and the entry of the class has to be taken out of
the new one, each from its own place. This is so unless a line end is changed on the way, or one of
the two edits falls into the other because the last import line ends in the list.
-/

set_option autoImplicit false

namespace Scaffold.Composition

open Text

/-! ## Where an entry is put -/

/-- Whether a text is an entry with a comma and blanks on either side to part it from the others. -/
inductive IsEntryText (entry : List Char) : List Char → Prop where
  | parted {comma leading ending trailing : List Char} :
      comma = [] ∨ comma = [','] → isAllBlank leading = true →
      ending = [] ∨ ending = [','] → isAllBlank trailing = true →
      IsEntryText entry (comma ++ leading ++ entry ++ ending ++ trailing)

theorem Appended.isEntryText {entry body newBody : List Char}
    (appended : Appended entry body newBody) (blank : isAllBlank body = true) :
    IsEntryText entry newBody := by
  have feed : isBlank '\n' = true := by decide
  have inked {filled trailing : List Char} {last : Char}
      (ends : filled.getLast? = some last) (notBlank : isBlank last = false) :
      isAllBlank (filled ++ trailing) ≠ true := by
    intro allBlank
    have member := List.mem_append_left trailing (List.mem_of_getLast? ends)
    rw [isAllBlank_iff.1 allBlank last member] at notBlank
    cases notBlank
  cases appended with
  | @first _ leading trailing _ blankBefore blankAfter =>
    have parted : IsEntryText entry
        ([] ++ ('\n' :: leading) ++ entry ++ [','] ++ ('\n' :: trailing)) :=
      .parted (.inl rfl) (by simp [feed, blankBefore]) (.inr rfl) (by simp [feed, blankAfter])
    simpa using parted
  | afterEntry ends notBlank => exact absurd blank (inked ends notBlank)
  | afterComma ends => exact absurd blank (inked ends (by decide))

/-- In a list that holds entries a new one is put after the last of them, and a comma parts both. -/
structure PutAfter (entry body newBody front put trailing : List Char) : Prop where
  body_eq : body = front ++ trailing
  newBody_eq : newBody = front ++ (put ++ trailing)
  isEntryText : IsEntryText entry put
  blank : isAllBlank trailing = true
  ends : ∃ last, front.getLast? = some last ∧ isBlank last = false
  comma : front.getLast? = some ',' ∨ put.head? = some ','

theorem PutAfter.trimRight_eq {entry body newBody front put trailing : List Char}
    (parts : PutAfter entry body newBody front put trailing) : trimRight body = front := by
  obtain ⟨last, ends, inked⟩ := parts.ends
  rw [parts.body_eq, trimRight_append_of_getLast? ends inked parts.blank]

theorem Appended.exists_putAfter {entry body newBody : List Char}
    (appended : Appended entry body newBody) (filled : isAllBlank body = false) :
    ∃ front put trailing, PutAfter entry body newBody front put trailing := by
  cases appended with
  | first blank =>
    rw [blank] at filled
    cases filled
  | @afterEntry front separator trailing last ends inked _ blankBetween _ blankAfter =>
    have parted : IsEntryText entry ([','] ++ separator ++ entry ++ [] ++ []) :=
      .parted (.inr rfl) blankBetween (.inl rfl) isAllBlank_nil
    exact ⟨front, _, trailing, rfl, by simp, parted, blankAfter, ⟨last, ends, inked⟩, .inr rfl⟩
  | @afterComma front separator trailing ends blankBetween _ blankAfter =>
    have parted : IsEntryText entry ([] ++ separator ++ entry ++ [','] ++ []) :=
      .parted (.inl rfl) blankBetween (.inr rfl) isAllBlank_nil
    exact ⟨front, _, trailing, rfl, by simp, parted, blankAfter, ⟨',', ends, by decide⟩, .inl ends⟩

/-- The part of a text that an entry takes the place of: all of a blank list, and nothing after the
last entry of any other. -/
def Document.entrySite (document : Document) : Span :=
  if isAllBlank document.body then document.list
  else
    let place := document.list.start + (trimRight document.body).length
    ⟨place, place⟩

/-- Whether a text is that of a document but for the line that imports a class, which is put after
the last one, and for the entry that refers to it, which is put in its place in the list. -/
def Document.RecoveredFrom (document : Document) (className name newText : List Char) : Prop :=
  ∃ layout put, Layout.document layout = { document with list := document.entrySite } ∧
    IsEntryText (reference name) put ∧
    newText = (layout.extend (layout.insertion className) put).text

/-- Whether a text holds no return but in a blank list, and the last import line ends outside the
list, unless the class is imported. -/
structure Document.IsRecoverable (document : Document) (className : List Char) : Prop where
  above : '\r' ∉ document.text.take document.entrySite.start
  below : '\r' ∉ document.text.drop document.entrySite.finish
  apart : importLine className ∈ document.imports ∨ document.importsEnd ≤ document.list.start ∨
    document.list.finish ≤ document.importsEnd

/-! ## The last import line and the list -/

theorem not_endsStatement_append_blank {front blanks : List Char} {last : Char}
    (ends : front.getLast? = some last) (inked : isBlank last = false) (noSemicolon : last ≠ ';')
    (blank : isAllBlank blanks = true) : ¬EndsStatement (front ++ blanks) := by
  rintro ⟨upper, other, split, otherBlank⟩
  have statementEnds : (upper ++ [';']).getLast? = some ';' := List.getLast?_concat
  rw [← List.singleton_append, ← List.append_assoc] at split
  have trimmed := congrArg trimRight split
  rw [trimRight_append_of_getLast? ends inked blank,
    trimRight_append_of_getLast? statementEnds (by decide) otherBlank] at trimmed
  rw [trimmed, List.getLast?_concat, Option.some.injEq] at ends
  exact noSemicolon ends.symm

theorem importsEnd_apart {front blanks back : List Char} {position : Nat}
    (bracketed : front.getLast? = some '[') (blank : isAllBlank blanks = true)
    (found : importsEnd? (front ++ (blanks ++ back)) = some position) :
    position < front.length ∨ (front ++ blanks).length < position := by
  by_contra inside
  rw [not_or, Nat.not_lt, Nat.not_lt, List.length_append] at inside
  have cut := List.take_append_drop (position - front.length) blanks
  have cutBlank : isAllBlank (blanks.take (position - front.length)) = true :=
    isAllBlank_iff.2 fun character member =>
      isAllBlank_iff.1 blank character (List.mem_of_mem_take member)
  rw [← cut, List.append_assoc, ← List.append_assoc front] at found
  have length_eq : position = (front ++ blanks.take (position - front.length)).length := by
    rw [List.length_append, List.length_take]
    omega
  exact not_endsStatement_append_blank bracketed (by decide) (by decide) cutBlank
    (endsStatement_of_importsEnd? (found.trans (congrArg some length_eq)))

theorem Document.importsEnd_ne_start {text : List Char} {document : Document}
    (parsed : Document.parse text = .ok document) : document.importsEnd ≠ document.list.start := by
  obtain ⟨front, body, rest, opening, importsEnd, rfl, rfl, opens, -, found⟩ :=
    Document.parse_eq_ok_iff_parts.1 parsed
  obtain ⟨upper, rfl⟩ := opens.exists_bracket
  have apart := importsEnd_apart List.getLast?_concat isAllBlank_nil found
  rw [List.append_nil] at apart
  have start_eq : (Document.ofParts (upper ++ ['[']) body (']' :: rest) importsEnd).list.start =
      (upper ++ ['[']).length := rfl
  rw [start_eq]
  show importsEnd ≠ _
  omega

/-! ## Texts that are recovered -/

namespace Layout

/-- The layout with nothing between its brackets but the place after the last entry. -/
def narrow (filled trailing : List Char) : Layout → Layout
  | importsFirst upper gap _ lower => importsFirst upper (gap ++ filled) [] (trailing ++ lower)
  | listFirst upper _ gap lower => listFirst (upper ++ filled) [] (trailing ++ gap) lower

theorem narrow_imported {layout : Layout} {filled trailing : List Char}
    (body_eq : layout.body = filled ++ trailing) :
    (layout.narrow filled trailing).imported = layout.imported := by
  cases layout <;> simp_all [narrow, imported, body]

theorem narrow_document {layout : Layout} {filled trailing : List Char}
    (body_eq : layout.body = filled ++ trailing) :
    (layout.narrow filled trailing).document =
      { layout.document with list :=
        ⟨layout.front.length + filled.length, layout.front.length + filled.length⟩ } := by
  rw [document, narrow_imported body_eq]
  cases layout <;> simp_all [document, narrow, text, front, body, back, Nat.add_assoc]

theorem narrow_insertion {layout : Layout} {filled trailing : List Char}
    (body_eq : layout.body = filled ++ trailing) (className : List Char) :
    (layout.narrow filled trailing).insertion className = layout.insertion className := by
  have text_eq : (layout.narrow filled trailing).text = layout.text :=
    congrArg Document.text (narrow_document body_eq)
  rw [insertion, insertion, text_eq, narrow_imported body_eq]

theorem narrow_extend_text (layout : Layout) (filled trailing insertion put : List Char) :
    ((layout.narrow filled trailing).extend insertion put).text =
      (layout.extend insertion (filled ++ (put ++ trailing))).text := by
  cases layout <;> simp [narrow, extend, text, front, body, back]

theorem entrySite_of_blank {layout : Layout} (blank : isAllBlank layout.body = true) :
    layout.document.entrySite = layout.document.list := by
  rw [Document.entrySite, document_body, if_pos blank]

theorem entrySite_of_filled {layout : Layout} (filled : isAllBlank layout.body = false) :
    layout.document.entrySite = ⟨layout.front.length + (trimRight layout.body).length,
      layout.front.length + (trimRight layout.body).length⟩ := by
  rw [Document.entrySite, document_body, if_neg (by simp [filled])]
  rfl

theorem recoveredFrom {layout : Layout} {className name newBody : List Char}
    (appended : Appended (reference name) layout.body newBody) :
    layout.document.RecoveredFrom className name
      (layout.extend (layout.insertion className) newBody).text := by
  cases blank : isAllBlank layout.body with
  | true =>
    refine ⟨layout, newBody, ?_, appended.isEntryText blank, rfl⟩
    rw [entrySite_of_blank blank]
  | false =>
    obtain ⟨filled, put, trailing, parts⟩ := appended.exists_putAfter blank
    refine ⟨layout.narrow filled trailing, put, ?_, parts.isEntryText, ?_⟩
    · rw [narrow_document parts.body_eq, entrySite_of_filled blank, parts.trimRight_eq]
    · rw [narrow_extend_text, narrow_insertion parts.body_eq, ← parts.newBody_eq]

theorem feedLines_parts {front body back : List Char} (noReturnFront : '\r' ∉ front)
    (noReturnBack : '\r' ∉ back) (apart : back.head? ≠ some '\n') :
    feedLines (front ++ (body ++ back)) = front ++ (feedLines body ++ back) := by
  have noReturn : front.getLast? ≠ some '\r' := fun ends =>
    noReturnFront (List.mem_of_getLast? ends)
  rw [feedLines_append fun ends => absurd ends noReturn, feedLines_append fun _ => apart,
    feedLines_eq_self noReturnFront, feedLines_eq_self noReturnBack]

theorem feedLines_imported {layout : Layout} (noReturnFront : '\r' ∉ layout.front)
    (noReturnBack : '\r' ∉ layout.back) (apart : layout.back.head? ≠ some '\n') :
    feedLines layout.imported = (layout.extend [] (feedLines layout.body)).imported := by
  cases layout with
  | importsFirst upper gap inner lower =>
    rw [front, List.mem_append, not_or] at noReturnFront
    rw [imported, extend, imported, List.append_nil, feedLines_eq_self noReturnFront.1]
  | listFirst upper inner gap lower =>
    rw [back, List.mem_append, not_or] at noReturnBack
    have apartGap : gap.head? ≠ some '\n' := fun feed => apart (by
      rw [back, List.head?_append, feed, Option.some_or])
    rw [imported, extend, imported, List.append_nil]
    exact feedLines_parts noReturnFront noReturnBack.1 apartGap

theorem parse_feedLines {layout : Layout}
    (parsed : Document.parse layout.text = .ok layout.document)
    (noReturnFront : '\r' ∉ layout.front) (noReturnBack : '\r' ∉ layout.back) :
    Document.parse (feedLines layout.text) =
      .ok (layout.extend [] (feedLines layout.body)).document := by
  obtain ⟨front, body, rest, opening, importsEnd, -, same, opens, inner, found⟩ :=
    Document.parse_eq_ok_iff_parts.1 parsed
  obtain ⟨rfl, rfl, back_eq, rfl⟩ := parts_eq same
  have apart : layout.back.head? ≠ some '\n' := by simp [back_eq]
  have text_read : feedLines layout.text = (layout.extend [] (feedLines layout.body)).text := by
    rw [text, feedLines_parts noReturnFront noReturnBack apart, text, extend_nil_front,
      extend_body, extend_nil_back]
  refine Document.parse_eq_ok_iff_parts.2 ⟨layout.front, feedLines layout.body, rest, opening,
    (layout.extend [] (feedLines layout.body)).imported.length, ?_, ?_, opens, ?_, ?_⟩
  · rw [text_read, text, extend_nil_front, extend_body, extend_nil_back, back_eq]
  · rw [document, text, extend_nil_front, extend_body, extend_nil_back, back_eq]
    rfl
  · rwa [mem_feedLines (by decide) (by decide)]
  · rw [← imported_append_below] at found
    rw [← imported_append_below, importsEnd?_feedLines found,
      feedLines_imported noReturnFront noReturnBack apart]

theorem recoveredFrom_of_blank {layout : Layout} {read : Document}
    (parsed : Document.parse layout.text = .ok layout.document)
    (parsedRead : Document.parse (feedLines layout.text) = .ok read)
    (bracketed : layout.front.getLast? = some '[') (blank : isAllBlank layout.body = true)
    (noReturnFront : '\r' ∉ layout.front) (noReturnBack : '\r' ∉ layout.back)
    (className name : List Char) :
    layout.document.RecoveredFrom className name (read.editedText className name) := by
  have importsFound : importsEnd? layout.text = some layout.imported.length :=
    findImportsEnd_eq_ok_iff.1 (Document.parse_eq_ok_iff.1 parsed).2.1
  have apart := importsEnd_apart bracketed blank importsFound
  have outside : layout.imported.length ≠ (layout.front ++ layout.body).length := by
    rw [List.length_append] at apart ⊢
    omega
  have text_eq := (Document.parse_eq_ok_iff.1 parsedRead).1
  have readApart := Document.importsEnd_ne_start parsedRead
  rw [parse_feedLines parsed noReturnFront noReturnBack, Except.ok.injEq] at parsedRead
  subst parsedRead
  have insertion_eq :
      (layout.extend [] (feedLines layout.body)).insertion className = layout.insertion className := by
    have imports_eq : imports (layout.extend [] (feedLines layout.body)).text =
        imports layout.text := by
      rw [← imports_feedLines layout.text, ← text_eq]
      rfl
    rw [insertion, insertion, imports_eq, importing, importing, importFeed_extend outside,
      List.append_nil]
  have appended := (layout.extend [] (feedLines layout.body)).appended_register className name
  rw [extend_body] at appended
  refine ⟨layout, _, ?_, appended.isEntryText (isAllBlank_feedLines blank), ?_⟩
  · rw [entrySite_of_blank blank]
  · rw [editedText_eq readApart, insertion_eq, extend_extend, List.nil_append, extend_body,
      register, extend_body, extend_body]

end Layout

theorem appended_listEdit (front body back name : List Char) (importsEnd : Nat) :
    Appended (reference name) body
      ((Document.ofParts front body back importsEnd).listEdit name).replacement := by
  rw [Document.listEdit_ofParts]
  exact appended_appendEntry (Layout.isAllBlank_listIndent _) _ _

theorem entrySite_ofParts {front body back : List Char} {importsEnd : Nat}
    (filled : isAllBlank body = false) :
    (Document.ofParts front body back importsEnd).entrySite =
      ⟨(front ++ trimRight body).length, (front ++ trimRight body).length⟩ := by
  rw [Document.entrySite, Document.body_ofParts, if_neg (by simp [filled]), List.length_append]
  rfl

/-- With the place of a new entry for its list, a text is parted behind the last entry it had. -/
theorem PutAfter.ofParts_entrySite {entry body newBody entered put trailing : List Char}
    (parts : PutAfter entry body newBody entered put trailing) (filled : isAllBlank body = false)
    (front back : List Char) (importsEnd : Nat) :
    { Document.ofParts front body back importsEnd with
      list := (Document.ofParts front body back importsEnd).entrySite } =
      .ofParts (front ++ entered) [] (trailing ++ back) importsEnd := by
  rw [entrySite_ofParts filled, parts.trimRight_eq]
  simp [Document.ofParts, parts.body_eq]

/-- An entry alone can be taken out of the text again wherever the last import line ends. -/
theorem recoveredFrom_of_imported {front body back className : List Char} {importsEnd : Nat}
    (filled : isAllBlank body = false) (within : importsEnd ≤ (front ++ (body ++ back)).length)
    (present : importLine className ∈ imports (front ++ (body ++ back))) (name : List Char) :
    (Document.ofParts front body back importsEnd).RecoveredFrom className name
      ((Document.ofParts front body back importsEnd).editedText className name) := by
  have appended := appended_listEdit front body back name importsEnd
  have presentThere :
      importLine className ∈ (Document.ofParts front body back importsEnd).imports := present
  have edited := Document.editedText_of_imported back presentThere name
  generalize ((Document.ofParts front body back importsEnd).listEdit name).replacement = newBody
    at appended edited
  obtain ⟨entered, put, trailing, parts⟩ := appended.exists_putAfter filled
  have text_eq : front ++ (body ++ back) = (front ++ entered) ++ ([] ++ (trailing ++ back)) := by
    rw [parts.body_eq]
    simp
  rw [text_eq] at within
  obtain ⟨layout, same⟩ := exists_layout within (by
    rw [List.append_nil]
    exact Nat.le_total _ _)
  obtain ⟨front_eq, body_eq, back_eq, -⟩ := Layout.parts_eq same
  refine ⟨layout, put, ?_, parts.isEntryText, ?_⟩
  · rw [same, parts.ofParts_entrySite filled]
  · have text_same : layout.text = front ++ (body ++ back) :=
      (congrArg Document.text same).trans text_eq.symm
    rw [edited, Layout.insertion, text_same, if_pos present, Layout.text, Layout.extend_nil_front, Layout.extend_body,
      Layout.extend_nil_back, front_eq, back_eq, parts.newBody_eq]
    simp

theorem Document.return_not_mem_of_filled {document : Document}
    (filled : isAllBlank document.body = false)
    (above : '\r' ∉ document.text.take document.entrySite.start)
    (below : '\r' ∉ document.text.drop document.entrySite.finish) : '\r' ∉ document.text := by
  rw [Document.entrySite, if_neg (by simp [filled])] at above below
  intro member
  rw [← List.take_append_drop (document.list.start + (trimRight document.body).length)
    document.text] at member
  exact (List.mem_append.1 member).elim above below

theorem Document.IsRecoverable.recoveredFrom {text className : List Char} {document read : Document}
    (recoverable : document.IsRecoverable className) (parsed : Document.parse text = .ok document)
    (parsedRead : Document.parse (feedLines text) = .ok read) (name : List Char) :
    document.RecoveredFrom className name (read.editedText className name) := by
  obtain ⟨front, body, rest, opening, importsEnd, rfl, rfl, opens, -, found⟩ :=
    Document.parse_eq_ok_iff_parts.1 parsed
  obtain ⟨upper, front_eq⟩ := opens.exists_bracket
  have bracketed : front.getLast? = some '[' := by
    rw [front_eq, List.getLast?_concat]
  have within := importsEnd?_le_length found
  cases blank : isAllBlank body with
  | true =>
    have outside := importsEnd_apart bracketed blank found
    obtain ⟨layout, same⟩ := exists_layout within (outside.imp Nat.le_of_lt Nat.le_of_lt)
    obtain ⟨rfl, rfl, back_eq, -⟩ := Layout.parts_eq same
    rw [← back_eq] at parsed parsedRead same recoverable ⊢
    rw [← same] at parsed recoverable ⊢
    obtain ⟨above, below, -⟩ := recoverable
    rw [Layout.entrySite_of_blank blank] at above below
    refine Layout.recoveredFrom_of_blank parsed parsedRead bracketed blank ?_ ?_ className name
    · rwa [Layout.document, Layout.text, List.take_left] at above
    · rwa [Layout.document, Layout.text, ← List.append_assoc, List.drop_left] at below
  | false =>
    have noReturn := Document.return_not_mem_of_filled (by rwa [Document.body_ofParts])
      recoverable.above recoverable.below
    have whole : feedLines (front ++ (body ++ ']' :: rest)) = front ++ (body ++ ']' :: rest) :=
      feedLines_eq_self noReturn
    rw [whole, parsed, Except.ok.injEq] at parsedRead
    subst parsedRead
    rcases recoverable.apart with present | apart
    · exact recoveredFrom_of_imported blank within present name
    · obtain ⟨layout, same⟩ := exists_layout within apart
      have apartPlaces := Document.importsEnd_ne_start parsed
      rw [← same] at apartPlaces ⊢
      rw [Layout.editedText_eq apartPlaces]
      exact Layout.recoveredFrom (appended_appendEntry (Layout.isAllBlank_listIndent _) _ _)

/-! ## Texts that are not recovered -/

/-- All that stays of a text is in the new one, so returns are where nothing stays. -/
theorem Document.RecoveredFrom.return_not_mem {document : Document}
    {className name newText : List Char} (recovered : document.RecoveredFrom className name newText)
    (noReturn : '\r' ∉ newText) :
    '\r' ∉ document.text.take document.entrySite.start ∧
      '\r' ∉ document.text.drop document.entrySite.finish := by
  obtain ⟨layout, put, same, -, rfl⟩ := recovered
  obtain ⟨text, importsEnd, list⟩ := document
  simp only [Layout.document, mk.injEq] at same
  obtain ⟨rfl, -, list_eq⟩ := same
  rw [← list_eq]
  generalize layout.insertion className = insertion at noReturn
  simp only
  have front_eq : layout.text.take layout.front.length = layout.front := by
    rw [Layout.text, List.take_left]
  have back_eq : layout.text.drop (layout.front ++ layout.body).length = layout.back := by
    rw [Layout.text, ← List.append_assoc, List.drop_left]
  rw [front_eq, back_eq]
  cases layout <;>
    simp_all [Layout.extend, Layout.text, Layout.front, Layout.body, Layout.back]

theorem exists_lines_importLine {upper className : List Char} (ended : upper.getLast? = some '\n')
    (classNamed : IsClassName className) (lower : List Char) :
    ∃ above, lines (upper ++ (importLine className ++ '\n' :: lower)) =
      above ++ ⟨importLine className, ['\n']⟩ :: lines lower := by
  obtain ⟨closed, rest, broken⟩ := exists_breaksInto upper
  have split := broken.lines_append (importLine className ++ '\n' :: lower) (by simp [ended])
  have goesOn : rest = [] := by
    cases last : rest.getLast? with
    | none => exact List.getLast?_eq_none_iff.1 last
    | some character =>
      have lastFeed := broken.text_eq ▸ ended
      rw [List.getLast?_append, last, Option.some_or, Option.some.injEq] at lastFeed
      have unended := broken.unended character (List.mem_of_getLast? last)
      rw [lastFeed] at unended
      exact absurd unended (by decide)
  have line_eq : lines (importLine className ++ '\n' :: lower) =
      ⟨importLine className, ['\n']⟩ :: lines lower := by
    have ends : EndsLine ['\n'] lower := .single (by decide) fun isReturn =>
      absurd isReturn (by decide)
    simpa using lines_append_ending (isLineEnd_importLine classNamed.inked) ends
  rw [goesOn, prependLine_nil, line_eq] at split
  exact ⟨closed, split⟩

theorem importLine_mem_imports {upper className : List Char} (ended : upper.getLast? = some '\n')
    (classNamed : IsClassName className) (lower : List Char) :
    importLine className ∈ imports (upper ++ (importLine className ++ '\n' :: lower)) := by
  obtain ⟨above, split⟩ := exists_lines_importLine ended classNamed lower
  rw [imports, split]
  simp [isImportLine_importLine classNamed, trimRight_importLine]

theorem exists_inside {front body : List Char} {position : Nat} (late : front.length < position)
    (early : position ≤ (front ++ body).length) :
    ∃ inside unread, body = inside ++ unread ∧ position = (front ++ inside).length := by
  refine ⟨_, _, (List.take_append_drop (position - front.length) body).symm, ?_⟩
  rw [List.length_append] at early ⊢
  rw [List.length_take]
  omega

/-- An import line put into the list moves the text below it, which the edit of the list ignores. -/
theorem editedText_of_inside {front inside rest back className : List Char}
    (fresh : importLine className ∉ imports (front ++ ((inside ++ rest) ++ back)))
    (name : List Char) :
    (Document.ofParts front (inside ++ rest) back (front ++ inside).length).editedText className name =
      front ++
        (((Document.ofParts front (inside ++ rest) back (front ++ inside).length).listEdit
            name).replacement ++
          (importing (front ++ inside) className ++ (rest ++ back)).drop rest.length) := by
  have text_eq : front ++ ((inside ++ rest) ++ back) = (front ++ inside) ++ ([] ++ (rest ++ back)) := by
    simp
  have before : (front ++ ((inside ++ rest) ++ back)).take (front ++ inside).length =
      front ++ inside := by
    rw [text_eq, List.take_left]
  have absent : importLine className ∉
      (Document.ofParts front (inside ++ rest) back (front ++ inside).length).imports := fresh
  have late : ¬(front ++ inside).length < front.length := by
    rw [List.length_append]
    omega
  have moved := Document.apply_edit (front ++ inside) []
    (importing (front ++ inside) className) (rest ++ back)
  rw [List.append_nil] at moved
  rw [Document.editedText, Document.edits, Document.importEdit?_eq, if_neg absent,
    Document.listEdit_ofParts]
  generalize appendEntry _ _ _ = newBody
  simp only [Document.ofParts, before, if_neg late, List.foldl_cons, List.foldl_nil]
  rw [text_eq, moved, Document.Edit.apply]
  generalize importing (front ++ inside) className ++ (rest ++ back) = moving
  have kept : (front ++ inside ++ moving).drop (front ++ (inside ++ rest)).length =
      moving.drop rest.length := by
    rw [← List.append_assoc front, List.length_append, List.drop_length_add_append]
  have above : (front ++ inside ++ moving).take front.length = front := by
    rw [List.append_assoc, List.take_left]
  simp only [kept, above]
  rw [List.append_assoc]

/-- A text cannot go on with an entry where it goes on with an import line, since no comma is in that. -/
theorem exists_of_append_eq_importLine {className above put below other : List Char}
    (classNamed : IsClassName className) (comma : above.getLast? = some ',' ∨ put.head? = some ',')
    (same : above ++ (put ++ below) = importLine className ++ '\n' :: other) :
    ∃ rest, above = importLine className ++ '\n' :: rest := by
  have absent : ',' ∉ importLine className ++ ['\n'] := by
    have inName : ',' ∉ className := classNamed.not_mem (by decide) (by decide)
    simp [importLine, inName]
  have split : above ++ (put ++ below) = (importLine className ++ ['\n']) ++ other := by
    simpa using same
  rcases List.append_eq_append_iff.1 split with ⟨rest, line_eq, below_eq⟩ | ⟨rest, above_eq, -⟩
  · have inAbove : ',' ∉ above := fun member => absent (line_eq ▸ List.mem_append_left _ member)
    rcases comma with ends | begins
    · exact absurd (List.mem_of_getLast? ends) inAbove
    · obtain ⟨others, rfl⟩ := List.head?_eq_some_iff.1 begins
      cases rest with
      | nil => exact ⟨[], by simpa using line_eq.symm⟩
      | cons first rest =>
        obtain ⟨rfl, -⟩ := List.cons_eq_cons.1 below_eq
        exact absurd (line_eq ▸ List.mem_append_right _ List.mem_cons_self) absent
  · exact ⟨rest, by simpa using above_eq⟩

/-- An entry put below the place of the import line stands below a line that was there before. -/
private theorem exists_of_entry_below {layout : Layout}
    {front inside above put below other className : List Char}
    (imported_eq : layout.imported = front ++ inside)
    (front_eq : layout.front = front ++ (inside ++ above)) (filled : above ≠ [])
    (comma : (inside ++ above).getLast? = some ',' ∨ put.head? = some ',')
    (classNamed : IsClassName className)
    (text_eq : front ++ ((inside ++ above) ++ (put ++ below)) =
      (layout.extend (importLine className ++ ['\n']) other).text) :
    ∃ others, above = importLine className ++ '\n' :: others := by
  cases layout with
  | listFirst upper inner gap lower =>
    simp only [Layout.imported, Layout.front] at imported_eq front_eq
    have shorter := congrArg List.length imported_eq
    have longer := List.length_pos_iff.2 filled
    simp only [front_eq, List.length_append] at shorter
    omega
  | importsFirst upper gap inner lower =>
    obtain rfl : upper = front ++ inside := imported_eq
    have commaAbove : above.getLast? = some ',' ∨ put.head? = some ',' := by
      rwa [List.getLast?_append_of_ne_nil _ filled] at comma
    have goesOn : above ++ (put ++ below) =
        importLine className ++ '\n' :: (gap ++ (other ++ lower)) := by
      simpa [Layout.extend, Layout.text, Layout.front, Layout.body, Layout.back] using text_eq
    exact exists_of_append_eq_importLine classNamed commaAbove goesOn

/-- An entry put above the place of the import line leaves the text from there on as it is. -/
private theorem append_eq_of_entry_above {layout : Layout}
    {front entered between rest back put other line below : List Char}
    (imported_eq : layout.imported = front ++ (entered ++ between))
    (front_eq : layout.front = front ++ entered) (body_eq : layout.body = [])
    (back_eq : layout.back = between ++ (rest ++ back)) (filled : between ≠ [])
    (length_eq : below.length = (line ++ back).length)
    (text_eq : front ++ ((entered ++ (put ++ (between ++ rest))) ++ below) =
      (layout.extend line other).text) :
    rest ++ below = line ++ (rest ++ back) := by
  cases layout with
  | importsFirst upper gap inner lower =>
    simp only [Layout.imported, Layout.front] at imported_eq front_eq
    have shorter := congrArg List.length front_eq
    have longer := List.length_pos_iff.2 filled
    simp only [imported_eq, List.length_append] at shorter
    omega
  | listFirst upper inner gap lower =>
    obtain rfl : upper = front ++ entered := front_eq
    obtain rfl : inner = [] := body_eq
    obtain rfl : between = gap := by simpa [Layout.imported] using imported_eq.symm
    obtain rfl : lower = rest ++ back := by simpa [Layout.back] using back_eq
    have whole : put ++ (between ++ (rest ++ below)) =
        other ++ (between ++ (line ++ (rest ++ back))) := by
      simpa [Layout.extend, Layout.text, Layout.front, Layout.body, Layout.back] using text_eq
    have put_length : put.length = other.length := by
      have lengths := congrArg List.length whole
      simp only [List.length_append] at lengths length_eq
      omega
    exact List.append_cancel_left (List.append_inj whole put_length).2

theorem not_recoveredFrom_of_inside {front inside rest back className name : List Char}
    (noReturn : '\r' ∉ front ++ ((inside ++ rest) ++ back)) (bracketed : front.getLast? = some '[')
    (found : importsEnd? (front ++ ((inside ++ rest) ++ back)) = some (front ++ inside).length)
    (fresh : importLine className ∉ imports (front ++ ((inside ++ rest) ++ back)))
    (begun : inside ≠ []) (filled : rest ≠ []) (classNamed : IsClassName className) :
    ¬(Document.ofParts front (inside ++ rest) back (front ++ inside).length).RecoveredFrom
      className name
      ((Document.ofParts front (inside ++ rest) back (front ++ inside).length).editedText
        className name) := by
  have text_eq : front ++ ((inside ++ rest) ++ back) = (front ++ inside) ++ (rest ++ back) := by simp
  have ended : (front ++ inside).getLast? = some '\n' := by
    rw [text_eq] at found noReturn
    exact getLast?_of_importsEnd? found (fun member => noReturn (List.mem_append_left _ member))
      (List.append_ne_nil_of_left_ne_nil filled _)
  have insideEnded : inside.getLast? = some '\n' := by
    rwa [List.getLast?_append_of_ne_nil _ begun] at ended
  have notBlank : isAllBlank (inside ++ rest) = false := by
    refine Bool.eq_false_iff.2 fun blank => ?_
    have apart := importsEnd_apart bracketed blank found
    simp only [List.length_append] at apart
    omega
  have appended := appended_listEdit front (inside ++ rest) back name (front ++ inside).length
  have edited := editedText_of_inside fresh name
  generalize ((Document.ofParts front (inside ++ rest) back
    (front ++ inside).length).listEdit name).replacement = newBody at appended edited
  obtain ⟨entered, put, trailing, parts⟩ := appended.exists_putAfter notBlank
  have importing_eq : importing (front ++ inside) className = importLine className ++ ['\n'] := by
    rw [importing, importFeed, if_pos ended, List.nil_append]
  rintro ⟨layout, other, same, -, newText_eq⟩
  have whole : layout.text = front ++ ((inside ++ rest) ++ back) := congrArg Document.text same
  have imported_eq : layout.imported = front ++ inside := by
    rw [← Layout.imported_append_below, text_eq] at whole
    exact (List.append_inj whole (congrArg Document.importsEnd same)).1
  have site : layout.document = .ofParts (front ++ entered) [] (trailing ++ back)
      (front ++ inside).length := same.trans (parts.ofParts_entrySite notBlank front back _)
  obtain ⟨front_eq, body_eq, back_eq, -⟩ := Layout.parts_eq site
  obtain ⟨last, enteredEnds, inked⟩ := parts.ends
  have apart : inside ≠ entered := by
    rintro rfl
    rw [insideEnded, Option.some.injEq] at enteredEnds
    rw [← enteredEnds] at inked
    exact absurd inked (by decide)
  rw [Layout.insertion, whole, if_neg fresh, imported_eq, importing_eq, edited, importing_eq,
    parts.newBody_eq] at newText_eq
  rcases List.append_eq_append_iff.1 parts.body_eq with ⟨above, rfl, rfl⟩ | ⟨between, rfl, rfl⟩
  · have filledAbove : above ≠ [] := by
      rintro rfl
      exact apart (List.append_nil _).symm
    rw [List.append_assoc (inside ++ above), List.append_assoc put] at newText_eq
    obtain ⟨others, rfl⟩ :=
      exists_of_entry_below imported_eq front_eq filledAbove parts.comma classNamed newText_eq
    refine fresh ?_
    have present := importLine_mem_imports ended classNamed (others ++ (trailing ++ back))
    simpa using present
  · have filledBetween : between ≠ [] := by
      rintro rfl
      exact apart (List.append_nil _)
    have goesOn := append_eq_of_entry_above imported_eq front_eq body_eq (by simpa using back_eq)
      filledBetween (by simp only [List.length_drop, List.length_append]; omega) newText_eq
    obtain ⟨first, others, rfl⟩ := List.exists_cons_of_ne_nil filled
    have first_eq : first = 'u' := (List.cons_eq_cons.1 goesOn).1
    have blank := isAllBlank_iff.1 parts.blank first (by simp)
    rw [first_eq] at blank
    exact absurd blank (by decide)

/-- The text of a file is recovered from what a registration makes of it if no return stands outside a
blank list and the last import line does not end in the list, and in no other case. -/
theorem Document.recoveredFrom_iff {text className name : List Char} {document read : Document}
    (parsed : Document.parse text = .ok document)
    (parsedRead : Document.parse (feedLines text) = .ok read) (classNamed : IsClassName className)
    (named : IsName name) :
    document.RecoveredFrom className name (read.editedText className name) ↔
      document.IsRecoverable className := by
  refine ⟨fun recovered => ?_, fun recoverable => recoverable.recoveredFrom parsed parsedRead name⟩
  have readText_eq := (Document.parse_eq_ok_iff.1 parsedRead).1
  have noReturnRead : '\r' ∉ read.editedText className name :=
    return_not_mem_editedText (readText_eq ▸ return_not_mem_feedLines text)
      classNamed.return_not_mem named.return_not_mem
  obtain ⟨above, below⟩ := recovered.return_not_mem noReturnRead
  refine ⟨above, below, ?_⟩
  by_contra inside
  simp only [not_or, Nat.not_le] at inside
  obtain ⟨fresh, late, early⟩ := inside
  obtain ⟨front, body, rest, opening, importsEnd, rfl, rfl, opens, -, found⟩ :=
    Document.parse_eq_ok_iff_parts.1 parsed
  obtain ⟨upper, front_eq⟩ := opens.exists_bracket
  have bracketed : front.getLast? = some '[' := by
    rw [front_eq, List.getLast?_concat]
  change front.length < importsEnd at late
  change importsEnd < (front ++ body).length at early
  have filled : isAllBlank body = false := by
    refine Bool.eq_false_iff.2 fun blank => ?_
    have outside := importsEnd_apart bracketed blank found
    omega
  have noReturn := return_not_mem_of_filled (by rwa [body_ofParts]) above below
  have whole : feedLines (front ++ (body ++ ']' :: rest)) = front ++ (body ++ ']' :: rest) :=
    feedLines_eq_self noReturn
  rw [whole, parsed, Except.ok.injEq] at parsedRead
  subst parsedRead
  rw [List.length_append] at early
  have cut := List.take_append_drop (importsEnd - front.length) body
  have importsEnd_eq :
      importsEnd = (front ++ body.take (importsEnd - front.length)).length := by
    rw [List.length_append, List.length_take]
    omega
  generalize body.take (importsEnd - front.length) = begun at cut importsEnd_eq
  generalize body.drop (importsEnd - front.length) = unread at cut
  subst cut importsEnd_eq
  simp only [List.length_append] at late early
  exact not_recoveredFrom_of_inside noReturn bracketed found fresh
    (List.ne_nil_of_length_pos (by omega)) (List.ne_nil_of_length_pos (by omega)) classNamed
    recovered

end Scaffold.Composition
