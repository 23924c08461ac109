import Scaffold.Proofs.Composition.Editing
import Scaffold.Proofs.Composition.Repeat

/-!
# What a registration that fails leaves

The text of a document is edited before its places are looked for again. So a registration that does
not find them has changed the document nevertheless. This happens only if all import lines reach into
what is between the last entry of the list and its closing bracket.
-/

set_option autoImplicit false

namespace Scaffold.Composition

open Text

variable {className name front body rest newBody newText : List Char} {opening importsEnd : Nat}
  {document : Document} {placed : Placed}

/-! ## The document after a fault -/

/-- Whether a registration that fails leaves the text of a document as it is. -/
def Document.KeepsOnFault (document : Document) (className name : List Char) : Prop :=
  ∀ after fault, document.register className name = (after, .error fault) →
    after.text = document.text

/-- A registration that fails leaves the edited text, in which the places are not found. -/
theorem Document.of_register_eq_error {after : Document} {fault : LayoutFault}
    (registered : document.register className name = (after, .error fault)) :
    after.text = document.editedText className name ∧
      Document.parse (document.editedText className name) = .error fault := by
  have text_eq := document.text_register className name
  rw [registered] at text_eq
  refine ⟨text_eq, ?_⟩
  cases found : findImportsEnd (document.editedText className name) with
  | error other =>
    simp only [register, found, Prod.mk.injEq, Except.error.injEq] at registered
    rw [parse, found, ← registered.2]
    rfl
  | ok importsEnd =>
    cases listed : findList (document.editedText className name) with
    | error other =>
      simp only [register, found, listed, Prod.mk.injEq, Except.error.injEq] at registered
      rw [parse, found, listed, ← registered.2]
      rfl
    | ok list => simp [register, found, listed] at registered

/-! ## The edited text is another one -/

theorem colon_mem_reference (name : List Char) : ':' ∈ reference name :=
  List.mem_append_right _ List.mem_cons_self

theorem Appended.count_colon_lt (appended : Appended (reference name) body newBody) :
    body.count ':' < newBody.count ':' := by
  have inReference := List.count_pos_iff.2 (colon_mem_reference name)
  cases appended with
  | first blank =>
    have none : ':' ∉ body := fun member => absurd (isAllBlank_iff.1 blank ':' member) (by decide)
    rw [List.count_eq_zero.2 none]
    simp only [List.count_append, List.count_cons]
    omega
  | afterEntry =>
    simp only [List.count_append, List.count_cons]
    omega
  | afterComma =>
    simp only [List.count_append, List.count_cons]
    omega

theorem Appended.length_lt {entry : List Char} (appended : Appended entry body newBody)
    (filled : isAllBlank body = false) : body.length < newBody.length := by
  cases appended with
  | first blank =>
    rw [blank] at filled
    cases filled
  | afterEntry =>
    simp only [List.length_append, List.length_cons]
    omega
  | afterComma =>
    simp only [List.length_append, List.length_cons]
    omega

/-- A registration changes the text, wherever its edits fall. -/
theorem EditedFrom.ne (edited : EditedFrom className front body rest newBody importsEnd newText)
    (appended : Appended (reference name) body newBody) :
    newText ≠ front ++ (body ++ ']' :: rest) := by
  intro same
  cases edited with
  | imported =>
    have more := appended.count_colon_lt
    rw [List.append_cancel_left_eq, List.append_cancel_right_eq] at same
    rw [same] at more
    exact absurd more (Nat.lt_irrefl _)
  | @apart layout _ parts =>
    obtain ⟨rfl, rfl, back_eq, -⟩ := Layout.parts_eq parts
    have more := appended.count_colon_lt
    have counts := congrArg (List.count ':') same
    rw [← back_eq] at counts
    cases layout <;>
      simp only [Layout.extend, Layout.text, Layout.front, Layout.body, Layout.back,
        List.count_append] at counts more <;>
      omega
  | within _ _ _ filled =>
    have longer := appended.length_lt filled
    have lengths := congrArg List.length same
    simp only [List.length_append] at lengths
    omega

/-! ## Import lines that are found again -/

theorem exists_importsEnd?_of_mem {text : List Char} (member : placed ∈ placedImports text)
    (plain : placed.endsPlainly = true) : ∃ position, importsEnd? text = some position := by
  rw [importsEnd?_eq]
  cases last : lastFinish? (placedImports text) with
  | some position => exact ⟨position, rfl⟩
  | none =>
    rw [lastFinish?_eq_none_iff.1 last placed member] at plain
    cases plain

theorem mem_placedImports_of_finish_le {last : Char} (ends : front.getLast? = some last)
    (inked : isBlank last = false) {back : List Char} (filled : back ≠ [])
    (member : placed ∈ placedImports (front ++ back)) (early : placed.finish ≤ front.length)
    (newBack : List Char) : placed ∈ placedImports (front ++ newBack) := by
  obtain ⟨closed, goesOn, front_eq, -, -, split⟩ := exists_lines_append ends inked
  rw [placedImports, split] at member ⊢
  rw [front_eq] at early
  rw [placedFrom_append]
  exact List.mem_append_left _ (mem_placedFrom_of_finish_le filled member early)

theorem exists_mem_placedImports_of_lt_start (bracketed : front.getLast? = some '[')
    (member : placed ∈ placedImports (front ++ (body ++ ']' :: rest)))
    (late : (front ++ body).length < placed.start) (newBody : List Char) :
    ∃ other ∈ placedImports (front ++ (newBody ++ ']' :: rest)), other.line = placed.line := by
  obtain ⟨above, opened, closing, ending, below, rfl, -, -, -, split⟩ :=
    exists_lines_list bracketed rest
  obtain ⟨region, isRegion, lines_eq⟩ := split body
  obtain ⟨newRegion, -, newLines_eq⟩ := split newBody
  rw [placedImports, lines_eq, placedFrom_append, placedFrom_append, List.mem_append,
    List.mem_append] at member
  rcases member with inAbove | inRegion | inBelow
  · have bound := (placedFrom_bounds inAbove).2
    simp only [Placed.finish, List.length_append] at bound late
    omega
  · have bound := isRegion.starts _ placed inRegion
    simp only [List.length_append] at bound late
    omega
  · obtain ⟨old, member, rfl⟩ := List.mem_map.1 (placedFrom_add _ 0 below ▸ inBelow)
    have moved := List.mem_map_of_mem (f := Placed.later
      (0 + (joinLines above).length + (joinLines newRegion).length)) member
    rw [← placedFrom_add, Nat.add_zero] at moved
    rw [placedImports, newLines_eq, placedFrom_append, placedFrom_append]
    exact ⟨_, List.mem_append_right _ (List.mem_append_right _ moved), rfl⟩

/-- An import line that ends above the place of the entry or begins below the list stays, whatever
else the edited list holds. -/
theorem exists_importsEnd?_of_apart (bracketed : front.getLast? = some '[')
    (member : placed ∈ placedImports (front ++ (body ++ ']' :: rest)))
    (plain : placed.endsPlainly = true)
    (apart : placed.finish ≤ (front ++ trimRight body).length ∨
      (front ++ body).length < placed.start) (added : List Char) :
    ∃ position, importsEnd? (front ++ ((trimRight body ++ added) ++ ']' :: rest)) =
      some position := by
  rcases apart with early | late
  · obtain ⟨trailing, body_eq, -⟩ := exists_trimRight_append body
    obtain ⟨last, ends, inked⟩ := exists_getLast?_append_trimRight bracketed body
    have cut : front ++ (body ++ ']' :: rest) =
        (front ++ trimRight body) ++ (trailing ++ ']' :: rest) := by
      rw [List.append_assoc, ← List.append_assoc (trimRight body), ← body_eq]
    rw [cut] at member
    have kept := mem_placedImports_of_finish_le ends inked (by simp) member early
      (added ++ ']' :: rest)
    exact exists_importsEnd?_of_mem (by simpa using kept) plain
  · obtain ⟨other, kept, line_eq⟩ := exists_mem_placedImports_of_lt_start bracketed member late
      (trimRight body ++ added)
    exact exists_importsEnd?_of_mem kept (by rwa [Placed.endsPlainly, line_eq])

theorem EditedFrom.exists_importsEnd?
    (edited : EditedFrom className front body rest newBody importsEnd newText)
    (bracketed : front.getLast? = some '[') (appended : Appended (reference name) body newBody)
    (classNamed : IsClassName className)
    (member : placed ∈ placedImports (front ++ (body ++ ']' :: rest)))
    (plain : placed.endsPlainly = true)
    (apart : placed.finish ≤ (front ++ trimRight body).length ∨
      (front ++ body).length < placed.start) :
    ∃ position, importsEnd? newText = some position := by
  obtain ⟨between, after, rfl, -⟩ := appended.exists_eq_append
  have kept := exists_importsEnd?_of_apart bracketed member plain apart
  cases edited with
  | imported =>
    have found := kept (between ++ (reference name ++ after))
    simpa using found
  | @apart layout _ same outside =>
    obtain ⟨rfl, rfl, -, rfl⟩ := Layout.parts_eq same
    obtain ⟨upper, lower, split⟩ := Layout.exists_text_eq_importing outside className _
    obtain ⟨new, inText, line_eq⟩ := exists_mem_placedImports_importing classNamed upper lower
    rw [← split] at inText
    exact exists_importsEnd?_of_mem inText (by rw [Placed.endsPlainly, line_eq]; rfl)
  | @within inside unread moved =>
    have found := kept (between ++ (reference name ++ after) ++ moved)
    simpa using found

/-! ## Registrations that fail -/

/-- Whether all import lines reach into what is between the last entry and the closing bracket. -/
def Document.ImportsAtEntry (document : Document) : Prop :=
  ∀ placed ∈ placedImports document.text, placed.endsPlainly = true →
    document.entrySite.start < placed.finish ∧ placed.start ≤ document.list.finish

/-- Only the import lines can be missed in the edited text, and only if none is apart from the place
of the entry. -/
theorem Document.importsAtEntry_of_fault {text : List Char} {fault : LayoutFault}
    (parsed : Document.parse text = .ok document) (classNamed : IsClassName className)
    (named : IsName name)
    (failed : Document.parse (document.editedText className name) = .error fault) :
    fault = .noImports ∧ document.ImportsAtEntry := by
  obtain ⟨front, body, rest, opening, importsEnd, site, rfl, rfl⟩ := exists_isSite parsed
  obtain ⟨newBody, appended, edited⟩ := site.exists_editedFrom className name
  generalize (ofParts front body (']' :: rest) importsEnd).editedText className name = newText
    at edited failed
  obtain ⟨newFront, moved, newRest, newText_eq, -, proper⟩ := edited.exists_list site
  obtain ⟨⟨newOpening, newOpens⟩, inMoved⟩ := proper classNamed
  have newInner : ']' ∉ newBody ++ moved := by
    rw [List.mem_append, not_or]
    exact ⟨appended.closing_not_mem named site.inner, inMoved⟩
  cases found : importsEnd? newText with
  | some position =>
    rw [newText_eq] at failed found
    rw [parse_eq_ok_iff_parts.2 ⟨_, _, _, _, _, rfl, rfl, newOpens, newInner, found⟩] at failed
    cases failed
  | none =>
    constructor
    · rw [parse, findImportsEnd, found] at failed
      exact (Except.error.inj failed).symm
    · intro placed member plain
      by_contra apart
      rw [entrySite_start_ofParts, not_and_or, Nat.not_lt, Nat.not_le] at apart
      obtain ⟨position, kept⟩ := edited.exists_importsEnd? site.bracketed appended classNamed member
        plain apart
      rw [found] at kept
      cases kept

/-- A registration that fails never leaves the text as it was: the entry is in it, and the place that
was not found again is missing. Proper names fail only if every import line is at the entry. -/
theorem Document.keepsOnFault_iff {text : List Char} (parsed : Document.parse text = .ok document)
    (className name : List Char) :
    (document.KeepsOnFault className name ↔
      ∃ newDocument, document.register className name = (newDocument, .ok ())) ∧
    (∀ after fault, document.register className name = (after, .error fault) →
      after.text ≠ document.text ∧ after.refersTo name = true ∧
        Document.parse after.text = .error fault) ∧
    (IsClassName className → IsName name →
      ∀ after fault, document.register className name = (after, .error fault) →
        fault = .noImports ∧ document.ImportsAtEntry) := by
  have leaves : ∀ after fault, document.register className name = (after, .error fault) →
      after.text ≠ document.text ∧ after.refersTo name = true ∧
        Document.parse after.text = .error fault := by
    intro after fault registered
    obtain ⟨text_eq, failed⟩ := of_register_eq_error registered
    refine ⟨?_, ?_, ?_⟩
    · obtain ⟨front, body, rest, opening, importsEnd, site, -, rfl⟩ := exists_isSite parsed
      obtain ⟨newBody, appended, edited⟩ := site.exists_editedFrom className name
      rw [text_eq]
      exact edited.ne appended
    · rw [refersTo, text_eq]
      exact refersTo_editedText parsed className name
    · rw [text_eq]
      exact failed
  refine ⟨⟨fun keeps => ?_, ?_⟩, leaves, fun classNamed named after fault registered => ?_⟩
  · cases registered : document.register className name with
    | mk after result =>
      cases result with
      | error fault => exact absurd (keeps after fault registered) (leaves after fault registered).1
      | ok => exact ⟨after, rfl⟩
  · rintro ⟨newDocument, returned⟩ after fault failed
    rw [returned] at failed
    cases failed
  · exact importsAtEntry_of_fault parsed classNamed named (of_register_eq_error registered).2

theorem keepsOnFault_two_names :
    ∃ document, Document.parse "use A\\B;\ndeclarations: [B::class]".toList = .ok document ∧
      document.KeepsOnFault "A\\C".toList "C".toList := by
  have parsed : Document.parse "use A\\B;\ndeclarations: [B::class]".toList =
      .ok ⟨"use A\\B;\ndeclarations: [B::class]".toList, 9, 24, 32⟩ := by
    decide +kernel
  refine ⟨_, parsed, (Document.keepsOnFault_iff parsed "A\\C".toList "C".toList).1.2 ?_⟩
  exact ⟨⟨"use A\\B;\nuse A\\C;\ndeclarations: [B::class, C::class]".toList, 18, 33, 51⟩,
    by decide +kernel⟩

/-- The only import line is the last entry of the list: a new entry makes it a part of one. -/
theorem text_changed_by_fault :
    ∃ document after,
      Document.parse "declarations: [\nuse A\\B;\n]\n".toList = .ok document ∧
      IsClassName "A\\B".toList ∧ IsName "C".toList ∧
      document.register "A\\B".toList "C".toList = (after, .error .noImports) ∧
      after.text ≠ document.text ∧
      document.refersTo "C".toList = false ∧ after.refersTo "C".toList = true := by
  refine ⟨⟨"declarations: [\nuse A\\B;\n]\n".toList, 25, 15, 25⟩,
    ⟨"declarations: [\nuse A\\B;,\nC::class\n]\n".toList, 25, 15, 25⟩, by decide +kernel,
    by decide, by decide, by decide +kernel, by decide +kernel, by decide +kernel,
    by decide +kernel⟩

end Scaffold.Composition
