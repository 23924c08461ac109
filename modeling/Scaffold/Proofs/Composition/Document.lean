import Scaffold.Proofs.Composition.Layout

/-!
# Registration in a document

A class registered in a document is imported after its last import line and listed after its last
entry; all other text stays where it is. The places are then found in the new text where the class was
put, so that another class can be registered in the same way.
-/

set_option autoImplicit false

namespace Scaffold.Composition

open Text

/-! ## Documents and layouts -/

theorem findImportsEnd_eq_ok_iff {text : List Char} {position : Nat} :
    findImportsEnd text = .ok position ↔ importsEnd? text = some position := by
  unfold findImportsEnd
  cases importsEnd? text <;> simp

theorem findList_eq_ok_iff {text : List Char} {list : Span} :
    findList text = .ok list ↔
      ∃ front body back opening, text = front ++ (body ++ ']' :: back) ∧ OpensList front opening ∧
        ']' ∉ body ∧ list = ⟨front.length, (front ++ body).length⟩ := by
  unfold findList
  rw [listStart?_eq]
  constructor
  · intro found
    cases opens : opening? text with
    | none => simp [opens] at found
    | some place =>
      simp only [opens, Option.map_some] at found
      obtain ⟨opening, start⟩ := place
      obtain ⟨front, rest, rfl, rfl, opensList⟩ := exists_opensList opens
      cases closes : listEnd? (front ++ rest) front.length with
      | none => simp [closes] at found
      | some finish =>
        simp only [closes, Except.ok.injEq] at found
        rw [listEnd?, List.drop_left] at closes
        obtain ⟨body, back, rfl, inner, finish_eq⟩ := findFrom_singleton_eq_some_iff.1 closes
        refine ⟨front, body, back, opening, rfl, opensList, inner, ?_⟩
        rw [← found, finish_eq, List.length_append]
  · rintro ⟨front, body, back, opening, rfl, opens, inner, rfl⟩
    have closes : listEnd? (front ++ (body ++ ']' :: back)) front.length =
        some (front ++ body).length := by
      rw [listEnd?, List.drop_left]
      exact findFrom_singleton_eq_some_iff.2
        ⟨body, back, rfl, inner, by rw [List.length_append]⟩
    simp [opens.opening?_append, closes]

theorem Document.parse_eq_ok_iff {text : List Char} {document : Document} :
    Document.parse text = .ok document ↔
      document.text = text ∧ findImportsEnd text = .ok document.importsEnd ∧
        findList text = .ok document.list := by
  obtain ⟨documentText, position, span⟩ := document
  unfold Document.parse
  cases findImportsEnd text with
  | error fault => simp [bind, Except.bind]
  | ok importsEnd =>
    cases findList text with
    | error fault => simp [bind, Except.bind]
    | ok list => simp [bind, Except.bind, pure, Except.pure, eq_comm]

/-- Whether no import line overlaps the list, from the word before its opening bracket to its closing
bracket. -/
def Document.HasClearList (document : Document) : Prop :=
  ∀ opening, opening? document.text = some (opening, document.list.start) →
    ∀ placed ∈ placedImports document.text,
      placed.finish ≤ opening ∨ document.list.finish < placed.start

instance (document : Document) : Decidable document.HasClearList :=
  decidable_of_iff
    (∀ found ∈ opening? document.text, found.2 = document.list.start →
      ∀ placed ∈ placedImports document.text,
        placed.finish ≤ found.1 ∨ document.list.finish < placed.start)
    ⟨fun clear opening opens => clear (opening, document.list.start) opens rfl,
      fun clear found opens start => clear found.1 (by rw [opens, ← start])⟩

/-! ## Documents with a layout -/

/-- The document of a text in three parts with its list in the second. -/
def Document.ofParts (front body back : List Char) (importsEnd : Nat) : Document :=
  ⟨front ++ (body ++ back), importsEnd, front.length, (front ++ body).length⟩

@[simp] theorem Document.body_ofParts (front body back : List Char) (importsEnd : Nat) :
    (Document.ofParts front body back importsEnd).body = body := by
  rw [Document.body, ofParts, ← List.append_assoc, List.take_left, List.drop_left]

theorem Document.parse_eq_ok_iff_parts {text : List Char} {document : Document} :
    Document.parse text = .ok document ↔
      ∃ front body rest opening importsEnd, text = front ++ (body ++ ']' :: rest) ∧
        document = .ofParts front body (']' :: rest) importsEnd ∧ OpensList front opening ∧
        ']' ∉ body ∧ importsEnd? text = some importsEnd := by
  rw [Document.parse_eq_ok_iff, findImportsEnd_eq_ok_iff, findList_eq_ok_iff]
  obtain ⟨documentText, position, span⟩ := document
  constructor
  · rintro ⟨rfl, imports, front, body, rest, opening, text_eq, opens, inner, list_eq⟩
    simp only at text_eq imports list_eq
    subst text_eq list_eq
    exact ⟨front, body, rest, opening, position, rfl, rfl, opens, inner, imports⟩
  · rintro ⟨front, body, rest, opening, importsEnd, rfl, document_eq, opens, inner, imports⟩
    simp only [ofParts, mk.injEq] at document_eq
    obtain ⟨rfl, rfl, rfl⟩ := document_eq
    exact ⟨rfl, imports, front, body, rest, opening, rfl, opens, inner, rfl⟩

private theorem exists_split {text : List Char} {position : Nat} (within : position ≤ text.length) :
    ∃ front back, text = front ++ back ∧ front.length = position :=
  ⟨text.take position, text.drop position, (List.take_append_drop _ _).symm, by simp [within]⟩

theorem exists_layout {front body back : List Char} {importsEnd : Nat}
    (within : importsEnd ≤ (front ++ (body ++ back)).length)
    (apart : importsEnd ≤ front.length ∨ (front ++ body).length ≤ importsEnd) :
    ∃ layout : Layout, layout.document = .ofParts front body back importsEnd := by
  rcases apart with above | below
  · obtain ⟨upper, gap, rfl, rfl⟩ := exists_split above
    exact ⟨.importsFirst upper gap body back, rfl⟩
  · have inBack : importsEnd - (front ++ body).length ≤ back.length := by
      simp only [List.length_append] at within ⊢
      omega
    obtain ⟨gap, lower, rfl, length_eq⟩ := exists_split inBack
    refine ⟨.listFirst front body gap lower, ?_⟩
    have importsEnd_eq : (front ++ (body ++ gap)).length = importsEnd := by
      simp only [List.length_append] at below length_eq ⊢
      omega
    simp [Layout.document, Layout.text, Layout.front, Layout.body, Layout.back, Layout.imported,
      Document.ofParts, ← importsEnd_eq]

theorem Layout.parts_eq {layout : Layout} {front body back : List Char} {importsEnd : Nat}
    (same : layout.document = .ofParts front body back importsEnd) :
    layout.front = front ∧ layout.body = body ∧ layout.back = back ∧
      layout.imported.length = importsEnd := by
  simp only [document, text, Document.ofParts, Document.mk.injEq, Span.mk.injEq] at same
  obtain ⟨text_eq, imported, front_length, body_length⟩ := same
  obtain ⟨front_eq, rest⟩ := List.append_inj text_eq front_length
  rw [List.length_append, List.length_append, front_length, Nat.add_left_cancel_iff] at body_length
  obtain ⟨body_eq, back_eq⟩ := List.append_inj rest body_length
  exact ⟨front_eq, body_eq, back_eq, imported⟩

theorem importsEnd?_le_length {text : List Char} {position : Nat}
    (found : importsEnd? text = some position) : position ≤ text.length := by
  rw [importsEnd?_eq] at found
  obtain ⟨last, member, finish⟩ := exists_mem_of_lastFinish? found
  have bound := (placedFrom_bounds member).2
  rwa [joinLines_lines, Nat.zero_add, finish] at bound

theorem exists_clear_layout {text : List Char} {document : Document}
    (parsed : Document.parse text = .ok document) (clear : document.HasClearList) :
    ∃ layout opening, Layout.Clear layout opening ∧ layout.document = document := by
  obtain ⟨front, body, rest, opening, importsEnd, rfl, rfl, opens, inner, found⟩ :=
    Document.parse_eq_ok_iff_parts.1 parsed
  have apart := clear opening (opens.opening?_append _)
  have foundLast := found
  rw [importsEnd?_eq] at foundLast
  obtain ⟨last, member, finish⟩ := exists_mem_of_lastFinish? foundLast
  have early := opens.opening_lt
  have ordered : last.start ≤ last.finish := Nat.le_add_right _ _
  have placed : last.finish ≤ opening ∨ (front ++ body).length < last.start := apart last member
  rw [List.length_append] at placed
  obtain ⟨layout, same⟩ := exists_layout (importsEnd?_le_length found)
    (by rw [List.length_append]; omega)
  obtain ⟨rfl, rfl, back_eq, imported⟩ := Layout.parts_eq same
  refine ⟨layout, opening, ⟨opens, by rw [back_eq]; rfl, inner, ?_, ?_⟩, same⟩
  · rw [Layout.text, back_eq, imported]
    exact found
  · rw [Layout.text, back_eq]
    exact apart

/-! ## The edits of a registration -/

namespace Document

theorem importEdit?_eq (document : Document) (className : List Char) :
    document.importEdit? className =
      if importLine className ∈ document.imports then none
      else some ⟨document.importsEnd, document.importsEnd,
        importing (document.text.take document.importsEnd) className⟩ := by
  simp only [importEdit?, List.contains_iff_mem]
  rfl

theorem listEdit_ofParts (front body back name : List Char) (importsEnd : Nat) :
    (ofParts front body back importsEnd).listEdit name =
      ⟨front.length, (front ++ body).length, appendEntry body (reference name)
        (ofParts front body back importsEnd).listIndent⟩ := by
  rw [listEdit, body_ofParts]
  rfl

theorem apply_edit (front old new back : List Char) :
    Edit.apply (front ++ (old ++ back)) ⟨front.length, (front ++ old).length, new⟩ =
      front ++ (new ++ back) := by
  have kept : (front ++ (old ++ back)).drop (front ++ old).length = back := by
    rw [← List.append_assoc, List.drop_left]
  rw [Edit.apply, List.take_left, kept, List.append_assoc]

theorem editedText_of_imported {front body className : List Char} {importsEnd : Nat}
    (back : List Char)
    (present : importLine className ∈ (ofParts front body back importsEnd).imports)
    (name : List Char) :
    (ofParts front body back importsEnd).editedText className name =
      front ++ (((ofParts front body back importsEnd).listEdit name).replacement ++ back) := by
  rw [editedText, edits, importEdit?_eq, if_pos present, listEdit_ofParts]
  exact apply_edit front body _ back

end Document

namespace Layout

variable {layout : Layout} {opening : Nat}

theorem Clear.findImportsEnd_eq (clear : layout.Clear opening) :
    findImportsEnd layout.text = .ok layout.document.importsEnd :=
  findImportsEnd_eq_ok_iff.2 clear.importsEnd

theorem Clear.findList_eq (clear : layout.Clear opening) :
    findList layout.text = .ok layout.document.list := by
  obtain ⟨rest, back_eq⟩ := clear.exists_back
  refine findList_eq_ok_iff.2 ⟨layout.front, layout.body, rest, opening, ?_, clear.opens,
    clear.inner, rfl⟩
  rw [text, back_eq]

theorem Clear.parse_eq (clear : layout.Clear opening) :
    Document.parse layout.text = .ok layout.document :=
  Document.parse_eq_ok_iff.2 ⟨rfl, clear.findImportsEnd_eq, clear.findList_eq⟩

/-! ## Both places at once -/

theorem take_imported (layout : Layout) :
    layout.text.take layout.imported.length = layout.imported := by
  rw [← imported_append_below, List.take_left]

theorem document_imports (layout : Layout) : layout.document.imports = imports layout.text := rfl

theorem importEdit?_eq (layout : Layout) (className : List Char) :
    layout.document.importEdit? className =
      if importLine className ∈ imports layout.text then none
      else some ⟨layout.imported.length, layout.imported.length,
        importing layout.imported className⟩ := by
  have before_eq : layout.document.text.take layout.document.importsEnd = layout.imported :=
    take_imported layout
  rw [Document.importEdit?_eq, before_eq, document_imports]
  rfl

theorem listEdit_eq (layout : Layout) (name : List Char) :
    layout.document.listEdit name =
      ⟨layout.front.length, (layout.front ++ layout.body).length,
        appendEntry layout.body (reference name) layout.document.listIndent⟩ :=
  Document.listEdit_ofParts layout.front layout.body layout.back name layout.imported.length

theorem editedText_eq (apart : layout.imported.length ≠ layout.front.length)
    (className name : List Char) :
    layout.document.editedText className name =
      (layout.extend (layout.insertion className)
        (appendEntry layout.body (reference name) layout.document.listIndent)).text := by
  have text_eq : layout.document.text = layout.text := rfl
  rw [Document.editedText, Document.edits, importEdit?_eq, listEdit_eq, insertion, text_eq]
  generalize appendEntry layout.body (reference name) layout.document.listIndent = newBody
  by_cases found : importLine className ∈ imports layout.text
  · simp only [if_pos found, List.foldl_cons, List.foldl_nil]
    rw [text, Document.apply_edit, text, extend_nil_front, extend_body, extend_nil_back]
  · simp only [if_neg found]
    generalize importing layout.imported className = inserted
    cases layout with
    | importsFirst upper gap inner lower =>
      have before : (importsFirst upper gap inner lower).imported.length <
          (importsFirst upper gap inner lower).front.length := by
        simp only [imported, front, List.length_append] at apart ⊢
        omega
      have importEdit := Document.apply_edit upper [] inserted (gap ++ (newBody ++ lower))
      rw [List.append_nil] at importEdit
      rw [if_pos before, List.foldl_cons, List.foldl_cons, List.foldl_nil, text, Document.apply_edit]
      simpa [imported, front, back, body, text, extend] using importEdit
    | listFirst upper inner gap lower =>
      have after : ¬(listFirst upper inner gap lower).imported.length <
          (listFirst upper inner gap lower).front.length := by
        simp [imported, front]
      have importEdit := Document.apply_edit (upper ++ (inner ++ gap)) [] inserted lower
      have listEdit := Document.apply_edit upper inner newBody (gap ++ inserted ++ lower)
      rw [if_neg after, List.foldl_cons, List.foldl_cons, List.foldl_nil]
      simp only [imported, front, back, body, text, extend, List.append_assoc, List.append_nil,
        List.nil_append] at importEdit listEdit ⊢
      rw [importEdit, listEdit]

theorem isAllBlank_listIndent (document : Document) : isAllBlank document.listIndent = true :=
  isAllBlank_indentation _

/-- The layout of a text in which a class has been registered. -/
def register (className name : List Char) (layout : Layout) : Layout :=
  layout.extend (layout.insertion className)
    (appendEntry layout.body (reference name) layout.document.listIndent)

theorem appended_register (className name : List Char) (layout : Layout) :
    Appended (reference name) layout.body (layout.register className name).body := by
  rw [register, extend_body]
  exact appended_appendEntry (isAllBlank_listIndent layout.document) layout.body (reference name)

theorem register_eq_extend (className name : List Char) (layout : Layout) :
    layout.register className name =
      layout.extend (layout.insertion className) (layout.register className name).body := by
  rw [register, extend_body]

theorem Clear.register_eq {className name : List Char} (clear : layout.Clear opening)
    (classNamed : IsClassName className) (named : IsName name) :
    layout.document.register className name =
      ((layout.register className name).document, .ok ()) := by
  obtain ⟨newOpening, above, below, extended, -, -⟩ :=
    clear.extend_both classNamed named (layout.appended_register className name)
  rw [← register_eq_extend, register] at extended
  simp only [Document.register, editedText_eq clear.imported_ne.1, extended.findImportsEnd_eq,
    extended.findList_eq]
  rfl

end Layout

/-! ## The edited text is parsed -/

theorem Document.register_eq_ok_iff {document newDocument : Document}
    {className name : List Char} :
    document.register className name = (newDocument, .ok ()) ↔
      Document.parse (document.editedText className name) = .ok newDocument := by
  cases found : findImportsEnd (document.editedText className name) with
  | error fault => simp [Document.register, Document.parse, found, bind, Except.bind]
  | ok importsEnd =>
    cases listed : findList (document.editedText className name) with
    | error fault => simp [Document.register, Document.parse, found, listed, bind, Except.bind]
    | ok list =>
      simp [Document.register, Document.parse, found, listed, bind, Except.bind, pure, Except.pure]

theorem Document.text_register (document : Document) (className name : List Char) :
    (document.register className name).1.text = document.editedText className name := by
  unfold register
  dsimp only
  split
  · rfl
  · split <;> rfl

/-- A text that is parsed has only one list, which closes in the next bracket. -/
theorem Document.eq_ofParts_of_parse {front body rest : List Char} {opening : Nat}
    {document : Document} (parsed : Document.parse (front ++ (body ++ ']' :: rest)) = .ok document)
    (opens : OpensList front opening) (inner : ']' ∉ body) :
    document = .ofParts front body (']' :: rest) document.importsEnd := by
  obtain ⟨text_eq, -, found⟩ := Document.parse_eq_ok_iff.1 parsed
  have list_eq := findList_eq_ok_iff.2 ⟨front, body, rest, opening, rfl, opens, inner, rfl⟩
  rw [list_eq, Except.ok.injEq] at found
  obtain ⟨text, importsEnd, list⟩ := document
  simp only at text_eq found
  rw [text_eq, ← found, ofParts]

theorem Document.declarations_eq_of_parse {front body rest : List Char} {opening : Nat}
    {document : Document} (parsed : Document.parse (front ++ (body ++ ']' :: rest)) = .ok document)
    (opens : OpensList front opening) (inner : ']' ∉ body) :
    document.declarations = entries body := by
  rw [eq_ofParts_of_parse parsed opens inner, declarations, body_ofParts]

/-! ## One registration -/

/-- A registration keeps all the text of a document but for the line that imports the class, which is
put after the last import line, and for the entry that refers to it, which is appended to the list. -/
theorem Document.exists_register_eq {text className name : List Char} {document : Document}
    (parsed : Document.parse text = .ok document) (clear : document.HasClearList)
    (classNamed : IsClassName className) (named : IsName name) :
    ∃ layout newBody newDocument above below,
      Layout.document layout = document ∧
      Appended (reference name) document.body newBody ∧
      newDocument = (layout.extend
        (if importLine className ∈ document.imports then []
          else importing (document.text.take document.importsEnd) className) newBody).document ∧
      document.register className name = (newDocument, .ok ()) ∧
      newDocument.declarations = document.declarations ++ [reference name] ∧
      document.imports = above ++ below ∧
      newDocument.imports =
        above ++ (if importLine className ∈ document.imports then []
          else [importLine className]) ++ below := by
  obtain ⟨layout, opening, isClear, rfl⟩ := exists_clear_layout parsed clear
  have appended := layout.appended_register className name
  obtain ⟨-, above, below, -, before_eq, after_eq⟩ :=
    isClear.extend_both classNamed named appended
  have insertion_eq : layout.insertion className =
      if importLine className ∈ layout.document.imports then []
      else importing (layout.document.text.take layout.document.importsEnd) className := by
    have before : layout.document.text.take layout.document.importsEnd = layout.imported :=
      layout.take_imported
    rw [Layout.insertion, before, Layout.document_imports]
  rw [← insertion_eq]
  rw [← Layout.register_eq_extend] at after_eq
  refine ⟨layout, _, (layout.register className name).document, above, below, rfl,
    layout.document_body ▸ appended, by rw [← Layout.register_eq_extend],
    isClear.register_eq classNamed named, ?_, before_eq, after_eq⟩
  rw [Document.declarations, Document.declarations, Layout.document_body, Layout.document_body]
  exact appended.entries_eq (isEntry_reference named)

theorem exists_register_eq_of_one_entry :
    ∃ document,
      Document.parse "use A\\B;\ndeclarations: [\n    B::class,\n]".toList = .ok document ∧
      document.HasClearList ∧ IsClassName "A\\C".toList ∧ IsName "C".toList ∧
      ∃ layout newBody newDocument above below,
        Layout.document layout = document ∧
        Appended (reference "C".toList) document.body newBody ∧
        newDocument = (layout.extend
          (if importLine "A\\C".toList ∈ document.imports then []
            else importing (document.text.take document.importsEnd) "A\\C".toList)
          newBody).document ∧
        document.register "A\\C".toList "C".toList = (newDocument, .ok ()) ∧
        newDocument.declarations = document.declarations ++ [reference "C".toList] ∧
        document.imports = above ++ below ∧
        newDocument.imports =
          above ++ (if importLine "A\\C".toList ∈ document.imports then []
            else [importLine "A\\C".toList]) ++ below := by
  have parsed : Document.parse "use A\\B;\ndeclarations: [\n    B::class,\n]".toList =
      .ok ⟨"use A\\B;\ndeclarations: [\n    B::class,\n]".toList, 9, 24, 39⟩ := by
    decide +kernel
  have clear : Document.HasClearList
      ⟨"use A\\B;\ndeclarations: [\n    B::class,\n]".toList, 9, 24, 39⟩ := by
    decide +kernel
  have classNamed : IsClassName "A\\C".toList := by decide
  have named : IsName "C".toList := by decide
  exact ⟨_, parsed, clear, classNamed, named,
    Document.exists_register_eq parsed clear classNamed named⟩

end Scaffold.Composition
