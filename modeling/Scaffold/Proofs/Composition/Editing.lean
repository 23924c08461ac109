import Scaffold.Proofs.Composition.Displacement

/-!
# The edited text

The text that a registration makes, by where the last import line ends: the class may be imported
already, the new line may be put outside the list, or it is put into the list and moves what follows it
there. In each case there is a list again where the entry is.
-/

set_option autoImplicit false

namespace Scaffold.Composition

open Text

variable {className name front body rest newBody newText : List Char} {opening importsEnd : Nat}

/-! ## Parsed texts in parts -/

/-- Whether a text in parts is parsed as such: the list opens where it should and closes in the next
bracket, and the last import line ends where it should. -/
structure IsSite (front body rest : List Char) (opening importsEnd : Nat) : Prop where
  opens : OpensList front opening
  inner : ']' ∉ body
  found : importsEnd? (front ++ (body ++ ']' :: rest)) = some importsEnd

theorem Document.exists_isSite {text : List Char} {document : Document}
    (parsed : Document.parse text = .ok document) :
    ∃ front body rest opening importsEnd, IsSite front body rest opening importsEnd ∧
      text = front ++ (body ++ ']' :: rest) ∧
      document = .ofParts front body (']' :: rest) importsEnd := by
  obtain ⟨front, body, rest, opening, importsEnd, rfl, rfl, opens, inner, found⟩ :=
    Document.parse_eq_ok_iff_parts.1 parsed
  exact ⟨front, body, rest, opening, importsEnd, ⟨opens, inner, found⟩, rfl, rfl⟩

namespace IsSite

theorem parse_eq (site : IsSite front body rest opening importsEnd) :
    Document.parse (front ++ (body ++ ']' :: rest)) =
      .ok (.ofParts front body (']' :: rest) importsEnd) :=
  Document.parse_eq_ok_iff_parts.2 ⟨front, body, rest, opening, importsEnd, rfl, rfl, site.opens,
    site.inner, site.found⟩

theorem bracketed (site : IsSite front body rest opening importsEnd) :
    front.getLast? = some '[' := by
  obtain ⟨upper, front_eq⟩ := site.opens.exists_bracket
  rw [front_eq, List.getLast?_concat]

theorem importsEnd_ne (site : IsSite front body rest opening importsEnd) :
    importsEnd ≠ front.length :=
  Document.importsEnd_ne_start site.parse_eq

end IsSite

/-- The last character above the place of an entry is not blank. -/
theorem exists_getLast?_append_trimRight {front : List Char} (bracketed : front.getLast? = some '[')
    (body : List Char) :
    ∃ last, (front ++ trimRight body).getLast? = some last ∧ isBlank last = false := by
  cases found : (trimRight body).getLast? with
  | none =>
    rw [List.getLast?_eq_none_iff.1 found, List.append_nil]
    exact ⟨'[', bracketed, by decide⟩
  | some last =>
    refine ⟨last, ?_, getLast?_trimRight found⟩
    rw [List.getLast?_append, found, Option.some_or]

theorem entrySite_start_ofParts (front body back : List Char) (importsEnd : Nat) :
    (Document.ofParts front body back importsEnd).entrySite.start =
      (front ++ trimRight body).length := by
  cases blank : isAllBlank body with
  | true =>
    rw [Document.entrySite, Document.body_ofParts, if_pos blank, trimRight_eq_nil_iff.2 blank,
      List.append_nil]
    rfl
  | false => rw [entrySite_ofParts blank]

/-! ## The edits by their places -/

/-- The text that comes of a registration whose entry makes a new text between the brackets. -/
inductive EditedFrom (className front body rest newBody : List Char) (importsEnd : Nat) :
    List Char → Prop where
  | imported : importLine className ∈ imports (front ++ (body ++ ']' :: rest)) →
      EditedFrom className front body rest newBody importsEnd (front ++ (newBody ++ ']' :: rest))
  | apart {layout : Layout} : importLine className ∉ imports (front ++ (body ++ ']' :: rest)) →
      layout.document = .ofParts front body (']' :: rest) importsEnd →
      importsEnd < front.length ∨ (front ++ body).length < importsEnd →
      EditedFrom className front body rest newBody importsEnd
        (layout.extend (importing layout.imported className) newBody).text
  | within {inside unread moved : List Char} :
      importLine className ∉ imports (front ++ (body ++ ']' :: rest)) →
      body = inside ++ unread → importsEnd = (front ++ inside).length → isAllBlank body = false →
      EndsStatement (front ++ inside) →
      IsMoved (importing (front ++ inside) className) unread moved →
      EditedFrom className front body rest newBody importsEnd
        (front ++ (newBody ++ (moved ++ ']' :: rest)))

/-- Every registration appends its entry to the list and is of one of these forms. -/
theorem IsSite.exists_editedFrom (site : IsSite front body rest opening importsEnd)
    (className name : List Char) :
    ∃ newBody, Appended (reference name) body newBody ∧
      EditedFrom className front body rest newBody importsEnd
        ((Document.ofParts front body (']' :: rest) importsEnd).editedText className name) := by
  have appended := appended_listEdit front body (']' :: rest) name importsEnd
  refine ⟨_, appended, ?_⟩
  by_cases present : importLine className ∈ imports (front ++ (body ++ ']' :: rest))
  · have presentThere : importLine className ∈
        (Document.ofParts front body (']' :: rest) importsEnd).imports := present
    rw [Document.editedText_of_imported (']' :: rest) presentThere]
    exact .imported present
  by_cases within : front.length < importsEnd ∧ importsEnd ≤ (front ++ body).length
  · have filled : isAllBlank body = false := by
      refine Bool.eq_false_iff.2 fun blank => ?_
      have outside := importsEnd_apart site.bracketed blank site.found
      omega
    obtain ⟨inside, unread, rfl, rfl⟩ := exists_inside within.1 within.2
    have statement : EndsStatement (front ++ inside) := by
      have cut : front ++ ((inside ++ unread) ++ ']' :: rest) =
          (front ++ inside) ++ (unread ++ ']' :: rest) := by simp
      exact endsStatement_of_importsEnd? (cut ▸ site.found)
    rw [editedText_of_inside present, ← List.append_assoc (importing _ _),
      List.drop_append_of_le_length (by simp)]
    exact .within present rfl rfl filled statement (isMoved_drop _ _)
  · have apartOpening := site.importsEnd_ne
    have outside : importsEnd < front.length ∨ (front ++ body).length < importsEnd := by omega
    obtain ⟨layout, same⟩ := exists_layout (importsEnd?_le_length site.found)
      (outside.imp Nat.le_of_lt Nat.le_of_lt)
    obtain ⟨rfl, rfl, back_eq, rfl⟩ := Layout.parts_eq same
    have fresh : importLine className ∉ imports layout.text := by
      rwa [Layout.text, back_eq]
    rw [← same, Layout.editedText_eq apartOpening, Layout.insertion, if_neg fresh,
      Layout.listEdit_eq]
    exact .apart present same outside

/-! ## The new import line in the edited text -/

theorem getLast?_append_importFeed (upper : List Char) :
    (upper ++ importFeed upper).getLast? = some '\n' := by
  unfold importFeed
  split
  · next ended => rwa [List.append_nil]
  · exact List.getLast?_concat

theorem exists_mem_placedImports_importing (classNamed : IsClassName className)
    (upper lower : List Char) :
    ∃ placed ∈ placedImports (upper ++ (importing upper className ++ lower)),
      placed.line = ⟨importLine className, ['\n']⟩ := by
  obtain ⟨above, split⟩ :=
    exists_lines_importLine (getLast?_append_importFeed upper) classNamed lower
  have text_eq : upper ++ (importing upper className ++ lower) =
      upper ++ importFeed upper ++ (importLine className ++ '\n' :: lower) := by
    simp [importing]
  refine ⟨⟨(joinLines above).length, ⟨importLine className, ['\n']⟩⟩, ?_, rfl⟩
  rw [text_eq, placedImports, split, placedFrom_append]
  simp [placedFrom, isImportLine_importLine classNamed]

/-- A line that is put outside the list stands after the text above it with the new entry in it. -/
theorem Layout.exists_text_eq_importing {layout : Layout}
    (outside : layout.imported.length < layout.front.length ∨
      (layout.front ++ layout.body).length < layout.imported.length)
    (className newBody : List Char) :
    ∃ upper lower, (layout.extend (importing layout.imported className) newBody).text =
      upper ++ (importing upper className ++ lower) := by
  have apart : layout.imported.length ≠ (layout.front ++ layout.body).length := by
    rw [List.length_append] at outside ⊢
    omega
  have importing_eq : importing layout.imported className =
      importing (layout.extend [] newBody).imported className := by
    rw [importing, importing, importFeed_extend apart, List.append_nil]
  have split := extend_text (importing layout.imported className) (layout.extend [] newBody)
  rw [extend_body, extend_extend, List.nil_append, importing_eq] at split
  rw [importing_eq]
  exact ⟨_, _, split⟩

/-! ## The list in the edited text -/

/-- The opening of the list begins below all that a statement ends which ends above its bracket. -/
theorem OpensList.length_le {upper gap : List Char} {opening : Nat}
    (opens : OpensList (upper ++ gap) opening) (ends : EndsStatement upper) (filled : gap ≠ []) :
    upper.length ≤ opening := by
  have split := ends.opening?_append gap
  rw [show opening? (upper ++ gap) = some (opening, (upper ++ gap).length) from opens] at split
  have long := List.length_pos_iff.2 filled
  cases above : opening? upper with
  | some found =>
    obtain ⟨-, -, -, front, back, upper_eq, finish⟩ := exists_of_openingFrom above
    rw [above, Option.some_or, Option.some.injEq] at split
    have length_eq := congrArg List.length upper_eq
    rw [← split] at finish
    simp only [List.length_append, List.length_cons] at finish length_eq
    omega
  | none =>
    rw [above, Option.none_or] at split
    obtain ⟨found, -, found_eq⟩ := Option.map_eq_some_iff.1 split.symm
    have start_eq : upper.length + found.1 = opening := (Prod.mk.inj found_eq).1
    omega

section

variable {layout : Layout}
  (outside : layout.imported.length < layout.front.length ∨
    (layout.front ++ layout.body).length < layout.imported.length)
include outside

/-- The list opens where it did, but for the import line that is put above it. -/
theorem Layout.exists_opensList_extend {opening : Nat} (opens : OpensList layout.front opening)
    (found : importsEnd? layout.text = some layout.imported.length)
    (classNamed : IsClassName className) (newBody : List Char) :
    ∃ newOpening,
      OpensList (layout.extend (importing layout.imported className) newBody).front newOpening := by
  cases layout with
  | importsFirst upper gap inner lower =>
    have filled : gap ≠ [] := by
      rintro rfl
      simp only [imported, front, Layout.body, List.length_append, List.length_nil] at outside
      omega
    rw [← imported_append_below] at found
    have ends : EndsStatement upper := endsStatement_of_importsEnd? found
    exact ⟨_, opens.insert (opens.length_le ends filled) ends
      (endsStatement_importing classNamed upper)
      (opening?_eq_none_of_colon_not_mem (colon_not_mem_importing classNamed upper))⟩
  | listFirst upper inner gap lower => exact ⟨opening, opens⟩

theorem Layout.exists_back_extend {rest : List Char} (back_eq : layout.back = ']' :: rest)
    (insertion newBody : List Char) :
    ∃ newRest, (layout.extend insertion newBody).back = ']' :: newRest := by
  cases layout with
  | importsFirst upper gap inner lower => exact ⟨rest, back_eq⟩
  | listFirst upper inner gap lower =>
    cases gap with
    | nil =>
      simp only [imported, front, Layout.body, List.length_append, List.length_nil] at outside
      omega
    | cons first gap =>
      obtain ⟨rfl, -⟩ := List.cons_eq_cons.1 back_eq
      exact ⟨_, rfl⟩

theorem Layout.getLast?_front_extend {last : Char} (ends : layout.front.getLast? = some last)
    (insertion newBody : List Char) :
    (layout.extend insertion newBody).front.getLast? = some last := by
  cases layout with
  | importsFirst upper gap inner lower =>
    cases gap with
    | nil =>
      simp only [imported, front, Layout.body, List.length_append, List.length_nil] at outside
      omega
    | cons first gap =>
      rw [front, List.getLast?_append, List.getLast?_cons, Option.some_or] at ends
      rw [extend, front, List.getLast?_append, List.getLast?_cons, Option.some_or, ends]
  | listFirst upper inner gap lower => exact ends

end

theorem IsSite.exists_list_extend {layout : Layout} (site : IsSite front body rest opening importsEnd)
    (same : layout.document = .ofParts front body (']' :: rest) importsEnd)
    (outside : importsEnd < front.length ∨ (front ++ body).length < importsEnd)
    (className newBody : List Char) :
    ∃ newFront newRest,
      (layout.extend (importing layout.imported className) newBody).text =
        newFront ++ (newBody ++ ']' :: newRest) ∧
      newFront.getLast? = some '[' ∧
      (IsClassName className → ∃ newOpening, OpensList newFront newOpening) := by
  obtain ⟨rfl, rfl, back_eq, rfl⟩ := Layout.parts_eq same
  have found : importsEnd? layout.text = some layout.imported.length := by
    rw [Layout.text, back_eq]
    exact site.found
  obtain ⟨newRest, newBack⟩ :=
    Layout.exists_back_extend outside back_eq (importing layout.imported className) newBody
  refine ⟨_, newRest, ?_, Layout.getLast?_front_extend outside site.bracketed _ newBody,
    fun classNamed => Layout.exists_opensList_extend outside site.opens found classNamed newBody⟩
  rw [Layout.text, Layout.extend_body, newBack]

theorem IsMoved.closing_not_mem {upper inside unread moved : List Char}
    (isMoved : IsMoved (importing upper className) unread moved) (inner : ']' ∉ body)
    (body_eq : body = inside ++ unread) (classNamed : IsClassName className) : ']' ∉ moved := by
  intro member
  rcases List.mem_append.1 (isMoved.suffix.subset member) with inLine | inBody
  · exact classNamed.parts_closing.not_mem_importing _ inLine
  · exact inner (body_eq ▸ List.mem_append_right _ inBody)

/-- The edited text has a list again, which begins with what the entry made of the old one. -/
theorem EditedFrom.exists_list
    (edited : EditedFrom className front body rest newBody importsEnd newText)
    (site : IsSite front body rest opening importsEnd) :
    ∃ newFront moved newRest,
      newText = newFront ++ ((newBody ++ moved) ++ ']' :: newRest) ∧
      newFront.getLast? = some '[' ∧
      (IsClassName className → (∃ newOpening, OpensList newFront newOpening) ∧ ']' ∉ moved) := by
  cases edited with
  | imported =>
    exact ⟨front, [], rest, by simp, site.bracketed,
      fun _ => ⟨⟨opening, site.opens⟩, List.not_mem_nil⟩⟩
  | apart _ same outside =>
    obtain ⟨newFront, newRest, text_eq, bracketed, newOpens⟩ :=
      site.exists_list_extend same outside className newBody
    exact ⟨newFront, [], newRest, by rw [text_eq, List.append_nil], bracketed,
      fun classNamed => ⟨newOpens classNamed, List.not_mem_nil⟩⟩
  | @within inside unread moved _ body_eq _ _ _ isMoved =>
    exact ⟨front, moved, rest, by simp, site.bracketed,
      fun classNamed => ⟨⟨opening, site.opens⟩,
        isMoved.closing_not_mem site.inner body_eq classNamed⟩⟩

end Scaffold.Composition
