import Scaffold.Proofs.Composition.Editing

/-!
# Whether a class is imported and listed in the end

A registration puts a line and an entry into one text at places that were found before. Neither gets
in the way of the other if no import line stands where the entry is put: neither the one that imports
the class nor the last one, after which the new line is put.
-/

set_option autoImplicit false

namespace Scaffold.Composition

open Text

variable {className name front body rest newBody : List Char} {opening importsEnd : Nat}
  {newDocument : Document}

/-! ## Room for both -/

/-- Whether a line that imports a class ends above the place of an entry or begins below the list. -/
def Document.ImportsApart (document : Document) (className : List Char) : Prop :=
  ∃ placed ∈ linesImporting className document.text,
    placed.finish ≤ document.entrySite.start ∨ document.list.finish < placed.start

/-- Whether a class can be imported without regard to the list: the line that imports it is apart from
the list, or there is none yet and it is put after a line that does not end in the list. -/
structure Document.HasRoomFor (document : Document) (className : List Char) : Prop where
  named : className ≠ []
  imported : importLine className ∈ document.imports → document.ImportsApart className
  fresh : importLine className ∉ document.imports →
    document.importsEnd ≤ document.list.start ∨ document.list.finish < document.importsEnd

/-- Whether a class is imported by its full name and listed by its short one. -/
def Document.Holds (document : Document) (className name : List Char) : Prop :=
  importLine className ∈ document.imports ∧ reference name ∈ document.declarations

theorem importLine_nil_not_mem_imports (text : List Char) : importLine [] ∉ imports text := by
  intro found
  obtain ⟨body, listed, same⟩ := List.mem_map.1 found
  obtain ⟨gap, imported, ending, shape⟩ := isImportLine_iff.1 (List.mem_filter.1 listed).2
  obtain ⟨first, others, rfl, -⟩ := shape.named
  have lengths := congrArg List.length (shape.trimRight_eq.symm.trans same)
  have gapFilled := List.length_pos_iff.2 shape.gap_ne_nil
  simp only [importLine, importMark, List.length_append, List.length_cons, List.length_nil]
    at lengths
  omega

/-! ## A class that is imported already -/

/-- A class is imported apart from the list if it is so with nothing but a comma for the rest of the
list, or in what is below the list. -/
theorem importsApart_ofParts_iff (classNamed : IsClassName className) {front : List Char}
    (bracketed : front.getLast? = some '[') (body rest : List Char) (importsEnd : Nat) :
    (Document.ofParts front body (']' :: rest) importsEnd).ImportsApart className ↔
      importLine className ∈ imports (front ++ trimRight body ++ [',']) ∨
        importLine className ∈ imports (']' :: rest) := by
  obtain ⟨trailing, body_eq, -⟩ := exists_trimRight_append body
  obtain ⟨last, ends, inked⟩ := exists_getLast?_append_trimRight bracketed body
  have filledBack : trailing ++ ']' :: rest ≠ [] := by simp
  have above := exists_finish_le_iff classNamed.parts_comma ends inked filledBack
  have below := classNamed.parts_closing.exists_lt_start_iff (front ++ body) rest
  have cut : front ++ trimRight body ++ (trailing ++ ']' :: rest) =
      front ++ (body ++ ']' :: rest) := by
    rw [List.append_assoc, ← List.append_assoc (trimRight body), ← body_eq]
  rw [cut] at above
  rw [List.append_assoc] at below
  rw [← above, ← below, Document.ImportsApart, entrySite_start_ofParts]
  simp only [and_or_left, exists_or]
  rfl

/-- With an entry in the list the class is imported by the lines that are apart from the list. -/
theorem Appended.mem_imports_iff {front body newBody : List Char}
    (appended : Appended (reference name) body newBody) (named : IsName name)
    (classNamed : IsClassName className) (bracketed : front.getLast? = some '[')
    (rest : List Char) :
    importLine className ∈ imports (front ++ (newBody ++ ']' :: rest)) ↔
      importLine className ∈ imports (front ++ trimRight body ++ [',']) ∨
        importLine className ∈ imports (']' :: rest) := by
  have inReference := semicolon_not_mem_reference named
  have comma := classNamed.parts_comma
  have closing := classNamed.parts_closing
  have inComma : ';' ∉ [','] := by decide
  cases appended with
  | @first _ leading trailing blank blankBefore blankAfter =>
    obtain ⟨upper, rfl⟩ := List.getLast?_eq_some_iff.1 bracketed
    have absent : ';' ∉ '\n' :: leading ++ reference name ++ ',' :: '\n' :: trailing := by
      simp [semicolon_not_mem_of_isAllBlank blankBefore, inReference,
        semicolon_not_mem_of_isAllBlank blankAfter]
    have opened := classNamed.parts_opening.mem_imports_append_cons_iff inComma upper
    have around := classNamed.parts_opening.mem_imports_around closing absent upper rest
    rw [← opened] at around
    simpa [trimRight_eq_nil_iff.2 blank] using around
  | @afterEntry filled separator trailing last ends inked _ blankBetween _ blankAfter =>
    have absent : ';' ∉ separator ++ reference name ++ trailing := by
      simp [semicolon_not_mem_of_isAllBlank blankBetween, inReference,
        semicolon_not_mem_of_isAllBlank blankAfter]
    have around := comma.mem_imports_around closing absent (front ++ filled) rest
    rw [trimRight_append_of_getLast? ends inked blankAfter]
    simpa using around
  | @afterComma filled separator trailing ends blankBetween _ blankAfter =>
    obtain ⟨upper, rfl⟩ := List.getLast?_eq_some_iff.1 ends
    have absent : ';' ∉ separator ++ reference name ++ ',' :: trailing := by
      simp [semicolon_not_mem_of_isAllBlank blankBetween, inReference,
        semicolon_not_mem_of_isAllBlank blankAfter]
    have twice := comma.mem_imports_append_cons_iff inComma (front ++ upper)
    have around := comma.mem_imports_around closing absent (front ++ upper) rest
    rw [trimRight_append_of_getLast? ends (by decide) blankAfter]
    rw [← twice] at around
    simpa using around

theorem Appended.mem_declarations {newFront newRest : List Char} {newOpening : Nat}
    (appended : Appended (reference name) body newBody) (named : IsName name) (inner : ']' ∉ body)
    (opens : OpensList newFront newOpening)
    (parsed : Document.parse (newFront ++ (newBody ++ ']' :: newRest)) = .ok newDocument) :
    reference name ∈ newDocument.declarations := by
  rw [Document.declarations_eq_of_parse parsed opens (appended.closing_not_mem named inner),
    appended.entries_eq (isEntry_reference named)]
  exact List.mem_concat_self

theorem holds_iff_of_imported (site : IsSite front body rest opening importsEnd)
    (appended : Appended (reference name) body newBody) (classNamed : IsClassName className)
    (named : IsName name)
    (parsed : Document.parse (front ++ (newBody ++ ']' :: rest)) = .ok newDocument) :
    newDocument.Holds className name ↔
      (Document.ofParts front body (']' :: rest) importsEnd).ImportsApart className := by
  have declared := appended.mem_declarations named site.inner site.opens parsed
  have text_eq := (Document.parse_eq_ok_iff.1 parsed).1
  rw [Document.Holds, Document.imports, text_eq, and_iff_left declared,
    appended.mem_imports_iff named classNamed site.bracketed,
    importsApart_ofParts_iff classNamed site.bracketed]

/-! ## A class that is new -/

theorem importLine_mem_imports_importing (classNamed : IsClassName className)
    (upper lower : List Char) :
    importLine className ∈ imports (upper ++ (importing upper className ++ lower)) := by
  obtain ⟨placed, member, line_eq⟩ := exists_mem_placedImports_importing classNamed upper lower
  rw [imports_eq, List.mem_map]
  exact ⟨placed, member, by rw [line_eq, trimRight_importLine]⟩

/-- If the last import line does not end in the list, a class that is new is imported and listed. -/
theorem holds_of_apart {layout : Layout} (site : IsSite front body rest opening importsEnd)
    (same : layout.document = .ofParts front body (']' :: rest) importsEnd)
    (outside : importsEnd < front.length ∨ (front ++ body).length < importsEnd)
    (appended : Appended (reference name) body newBody) (classNamed : IsClassName className)
    (named : IsName name)
    (parsed : Document.parse (layout.extend (importing layout.imported className) newBody).text =
      .ok newDocument) : newDocument.Holds className name := by
  refine ⟨?_, ?_⟩
  · obtain ⟨rfl, rfl, -, rfl⟩ := Layout.parts_eq same
    have text_eq := (Document.parse_eq_ok_iff.1 parsed).1
    obtain ⟨upper, lower, split⟩ := Layout.exists_text_eq_importing outside className newBody
    rw [Document.imports, text_eq, split]
    exact importLine_mem_imports_importing classNamed upper lower
  · obtain ⟨newFront, newRest, text_eq, -, opens⟩ :=
      site.exists_list_extend same outside className newBody
    obtain ⟨newOpening, newOpens⟩ := opens classNamed
    rw [text_eq] at parsed
    exact appended.mem_declarations named site.inner newOpens parsed

/-- If the last import line ends in the list, a class that is new to both places is not found in both
of them. -/
theorem not_holds_of_within {inside unread moved : List Char}
    (site : IsSite front body rest opening importsEnd)
    (fresh : importLine className ∉ imports (front ++ (body ++ ']' :: rest)))
    (body_eq : body = inside ++ unread) (filled : isAllBlank body = false)
    (statement : EndsStatement (front ++ inside))
    (isMoved : IsMoved (importing (front ++ inside) className) unread moved)
    (unlisted : reference name ∉ entries body)
    (appended : Appended (reference name) body newBody) (classNamed : IsClassName className)
    (named : IsName name)
    (parsed : Document.parse (front ++ (newBody ++ (moved ++ ']' :: rest))) = .ok newDocument) :
    ¬newDocument.Holds className name := by
  have newInner : ']' ∉ newBody ++ moved := by
    rw [List.mem_append, not_or]
    exact ⟨appended.closing_not_mem named site.inner,
      isMoved.closing_not_mem site.inner body_eq classNamed⟩
  subst body_eq
  rintro ⟨imported, declared⟩
  have text_eq := (Document.parse_eq_ok_iff.1 parsed).1
  rw [← List.append_assoc newBody] at parsed
  rw [Document.declarations_eq_of_parse parsed site.opens newInner] at declared
  rw [Document.imports, text_eq] at imported
  exact not_mem_imports_of_inside appended isMoved classNamed named filled statement fresh unlisted
    declared imported

/-! ## Any class -/

/-- A registration that returns leaves the class both imported and listed if it has room, and if it
was not listed before in no other case. -/
theorem Document.holds_of_register {text : List Char} {document newDocument : Document}
    (parsed : Document.parse text = .ok document)
    (words : ∀ character ∈ className, isWord character = true ∨ character = '\\')
    (named : IsName name) (registered : document.register className name = (newDocument, .ok ())) :
    (document.HasRoomFor className → newDocument.Holds className name) ∧
      (reference name ∉ document.declarations → newDocument.Holds className name →
        document.HasRoomFor className) := by
  obtain ⟨front, body, rest, opening, importsEnd, site, rfl, rfl⟩ := exists_isSite parsed
  by_cases empty : className = []
  · subst empty
    refine ⟨fun room => absurd rfl room.named, fun _ holds => ?_⟩
    exact absurd holds.1 (importLine_nil_not_mem_imports _)
  have classNamed : IsClassName className := ⟨empty, words⟩
  obtain ⟨newBody, appended, edited⟩ := site.exists_editedFrom className name
  have newParsed := register_eq_ok_iff.1 registered
  generalize (ofParts front body (']' :: rest) importsEnd).editedText className name = newText
    at edited newParsed
  cases edited with
  | imported present =>
    have holds_iff := holds_iff_of_imported site appended classNamed named newParsed
    refine ⟨fun room => holds_iff.2 (room.imported present), fun _ holds => ?_⟩
    exact ⟨empty, fun _ => holds_iff.1 holds, fun fresh => absurd present fresh⟩
  | apart fresh same outside =>
    refine ⟨fun _ => holds_of_apart site same outside appended classNamed named newParsed,
      fun _ _ => ⟨empty, fun present => absurd present fresh, fun _ => ?_⟩⟩
    exact outside.imp_left Nat.le_of_lt
  | @within inside unread moved fresh body_eq importsEnd_eq filled statement isMoved =>
    refine ⟨fun room => ?_, fun unlisted holds => ?_⟩
    · have outside : importsEnd ≤ front.length ∨ (front ++ body).length < importsEnd :=
        room.fresh fresh
      have apartOpening := site.importsEnd_ne
      have lengths := congrArg List.length body_eq
      rw [List.length_append] at outside lengths importsEnd_eq
      omega
    · rw [declarations, body_ofParts] at unlisted
      exact absurd holds (not_holds_of_within site fresh body_eq filled statement isMoved unlisted
        appended classNamed named newParsed)

theorem holds_of_register_one_entry :
    ∃ document newDocument,
      Document.parse "use A\\B;\ndeclarations: [\n    B::class,\n]".toList = .ok document ∧
      (∀ character ∈ "A\\C".toList, isWord character = true ∨ character = '\\') ∧
      IsName "C".toList ∧
      document.register "A\\C".toList "C".toList = (newDocument, .ok ()) ∧
      newDocument.Holds "A\\C".toList "C".toList := by
  have parsed : Document.parse "use A\\B;\ndeclarations: [\n    B::class,\n]".toList =
      .ok ⟨"use A\\B;\ndeclarations: [\n    B::class,\n]".toList, 9, 24, 39⟩ := by
    decide +kernel
  have words : ∀ character ∈ "A\\C".toList, isWord character = true ∨ character = '\\' :=
    (by decide : IsClassName "A\\C".toList).2
  have named : IsName "C".toList := by decide
  have registered : Document.register
      ⟨"use A\\B;\ndeclarations: [\n    B::class,\n]".toList, 9, 24, 39⟩
      "A\\C".toList "C".toList =
        (⟨"use A\\B;\nuse A\\C;\ndeclarations: [\n    B::class,\n    C::class,\n]".toList,
          18, 33, 62⟩, .ok ()) := by
    decide +kernel
  have room : Document.HasRoomFor ⟨"use A\\B;\ndeclarations: [\n    B::class,\n]".toList, 9, 24, 39⟩
      "A\\C".toList :=
    ⟨by decide, fun present => absurd present (by decide +kernel), fun _ => .inl (by decide)⟩
  exact ⟨_, _, parsed, words, named, registered,
    (Document.holds_of_register parsed words named registered).1 room⟩

/-- The line of the class is put below the import line in the list and cut up by the new entry. -/
theorem import_lost_above_entry :
    ∃ document newDocument,
      Document.parse "use A\\B;\ndeclarations: [\nuse A\\D;\n    B::class,\n]\n".toList =
        .ok document ∧
      IsClassName "A\\C".toList ∧ IsName "C".toList ∧
      document.register "A\\C".toList "C".toList = (newDocument, .ok ()) ∧
      newDocument.text =
        "use A\\B;\ndeclarations: [\nuse A\\D;\n    B::class,\n    C::class,\n::class,\n]\n".toList ∧
      ¬newDocument.Holds "A\\C".toList "C".toList := by
  refine ⟨⟨"use A\\B;\ndeclarations: [\nuse A\\D;\n    B::class,\n]\n".toList, 34, 24, 48⟩,
    ⟨"use A\\B;\ndeclarations: [\nuse A\\D;\n    B::class,\n    C::class,\n::class,\n]\n".toList,
      34, 24, 71⟩, by decide +kernel, by decide, by decide, by decide +kernel, rfl, ?_⟩
  rintro ⟨imported, -⟩
  exact absurd imported (by decide +kernel)

end Scaffold.Composition
