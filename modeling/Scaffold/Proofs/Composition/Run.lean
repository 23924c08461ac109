import Mathlib.Data.List.Induction
import Scaffold.Proofs.Composition.Document
import Scaffold.Proofs.Composition.Frame

/-!
# Registrations one after the other

What a text refers to, imports and lists after several classes were registered in it, and the text
itself: the lines that import them are in one block and their entries in one frame, so that another
order of the same classes changes the order of those only.
-/

set_option autoImplicit false

namespace Scaffold.Composition

open Text

/-! ## References after a registration -/

theorem EndsStatement.exists_getLast? {text : List Char} (ends : EndsStatement text) :
    ∃ last, text.getLast? = some last ∧ PartsReferences last := by
  obtain ⟨front, blanks, rfl, blank⟩ := ends
  have semicolon : PartsReferences ';' := ⟨by decide, by decide⟩
  cases last : blanks.getLast? with
  | none =>
    rw [List.getLast?_eq_none_iff.1 last]
    exact ⟨';', List.getLast?_concat, semicolon⟩
  | some character =>
    refine ⟨character, ?_, partsReferences_of_isBlank
      (isAllBlank_iff.1 blank character (List.mem_of_getLast? last))⟩
    rw [List.getLast?_append, List.getLast?_cons, last, Option.some_or]
    rfl

theorem refersTo_importing_append {className name : List Char} (classNamed : IsClassName className)
    (named : IsName name) (upper text : List Char) :
    refersTo name (importing upper className ++ text) = refersTo name text := by
  have ends : (importing upper className).getLast? = some '\n' := by
    rw [importing, List.getLast?_concat]
  have parts : PartsReferences '\n' := ⟨by decide, by decide⟩
  rw [refersTo_append named ends parts,
    refersTo_of_colon_not_mem (colon_not_mem_importing classNamed upper), Bool.false_or]

namespace Layout

variable {layout : Layout} {opening : Nat}

theorem Clear.refersTo_text {name : List Char} (clear : layout.Clear opening)
    (named : IsName name) :
    refersTo name layout.text =
      (refersTo name layout.front || (refersTo name layout.body || refersTo name layout.back)) := by
  obtain ⟨upper, front_eq⟩ := clear.opens.exists_bracket
  obtain ⟨rest, back_eq⟩ := clear.exists_back
  have openBracket : PartsReferences '[' := ⟨by decide, by decide⟩
  have closeBracket : PartsReferences ']' := ⟨by decide, by decide⟩
  have ends : layout.front.getLast? = some '[' := by
    rw [front_eq, List.getLast?_concat]
  rw [text, refersTo_append named ends openBracket, back_eq,
    refersTo_append_cons named closeBracket, refersTo_cons named closeBracket]

theorem Clear.refersTo_extend_list {name other newBody : List Char} (clear : layout.Clear opening)
    (named : IsName name) (otherNamed : IsName other)
    (appended : Appended (reference other) layout.body newBody) :
    refersTo name (layout.extend [] newBody).text =
      (refersTo name layout.text || decide (name = other)) := by
  obtain ⟨extended, -⟩ := clear.extend_list otherNamed appended
  rw [extended.refersTo_text named, clear.refersTo_text named, extend_nil_front, extend_nil_back,
    extend_body, appended.refersTo_eq named otherNamed]
  ac_rfl

theorem Clear.refersTo_extend_imports {className name : List Char} (clear : layout.Clear opening)
    (classNamed : IsClassName className) (named : IsName name) :
    refersTo name (layout.extend (importing layout.imported className) layout.body).text =
      refersTo name layout.text := by
  have found : importsEnd? (layout.imported ++ layout.below) = some layout.imported.length := by
    rw [imported_append_below]
    exact clear.importsEnd
  obtain ⟨last, ends, parts⟩ := (endsStatement_of_importsEnd? found).exists_getLast?
  rw [extend_text, refersTo_append named ends parts, refersTo_importing_append classNamed named,
    ← refersTo_append named ends parts, imported_append_below]

theorem Clear.refersTo_register {className name other : List Char} (clear : layout.Clear opening)
    (classNamed : IsClassName className) (named : IsName name) (otherNamed : IsName other) :
    refersTo other (layout.register className name).text =
      (refersTo other layout.text || decide (other = name)) := by
  have appended := layout.appended_register className name
  have listed := clear.refersTo_extend_list otherNamed named appended
  by_cases found : importLine className ∈ imports layout.text
  · rw [register_eq_extend, insertion, if_pos found, listed]
  · obtain ⟨extended, -⟩ := clear.extend_list named appended
    have imported := extended.refersTo_extend_imports classNamed otherNamed
    rw [extend_body, extend_extend, List.nil_append, importing,
      importFeed_extend clear.imported_ne.2, List.append_nil] at imported
    rw [register_eq_extend, insertion, if_neg found, importing, imported, listed]

end Layout

/-! ## Texts without returns -/

theorem mem_entrySeparator {character : Char} {body baseIndent : List Char}
    (member : character ∈ entrySeparator body baseIndent) :
    character = '\n' ∨ character = ' ' ∨ character ∈ body ∨ character ∈ baseIndent := by
  have inStep : ∀ character ∈ indentStep, character = ' ' :=
    List.all_iff_forall_prop.1 (by decide)
  simp only [entrySeparator] at member
  split at member
  · rcases List.mem_cons.1 member with feed | inIndent
    · exact .inl feed
    · obtain ⟨above, split, -⟩ := exists_append_lastLine (trimRight body)
      obtain ⟨trailing, body_eq, -⟩ := exists_trimRight_append body
      have inLine := (List.takeWhile_sublist _).subset inIndent
      rw [body_eq, split]
      exact .inr (.inr (.inl (by simp [inLine])))
  · split at member
    · simp only [List.cons_append, List.mem_cons, List.mem_append] at member
      rcases member with feed | inBase | inStep'
      · exact .inl feed
      · exact .inr (.inr (.inr inBase))
      · exact .inr (.inl (inStep character inStep'))
    · exact .inr (.inl (List.mem_singleton.1 member))

theorem return_not_mem_appendEntry {body entry baseIndent : List Char} (inBody : '\r' ∉ body)
    (inEntry : '\r' ∉ entry) (inBase : '\r' ∉ baseIndent) :
    '\r' ∉ appendEntry body entry baseIndent := by
  obtain ⟨trailing, split, -⟩ := exists_trimRight_append body
  have parts := inBody
  rw [split, List.mem_append, not_or] at parts
  have inSeparator : '\r' ∉ entrySeparator body baseIndent := fun member => by
    rcases mem_entrySeparator member with feed | space | member | member
    · exact absurd feed (by decide)
    · exact absurd space (by decide)
    · exact inBody member
    · exact inBase member
  have inStep : '\r' ∉ indentStep := by decide
  simp only [appendEntry, drop_trimRight split]
  split
  · simp [inBase, inStep, inEntry]
  · split <;> simp [parts.1, parts.2, inSeparator, inEntry]

namespace Document

theorem return_not_mem_listIndent {document : Document} (noReturn : '\r' ∉ document.text) :
    '\r' ∉ document.listIndent := by
  intro member
  have inLine := (List.takeWhile_sublist _).subset member
  obtain ⟨above, split, -⟩ := exists_append_lastLine (document.text.take document.list.start)
  refine noReturn ((List.take_sublist document.list.start document.text).subset ?_)
  rw [split]
  exact List.mem_append_right _ inLine

theorem not_mem_foldl_apply {character : Char} {edits : List Edit} {text : List Char}
    (inText : character ∉ text) (inEdits : ∀ edit ∈ edits, character ∉ edit.replacement) :
    character ∉ edits.foldl Edit.apply text := by
  induction edits generalizing text with
  | nil => exact inText
  | cons edit edits ih =>
    obtain ⟨inEdit, inRest⟩ := List.forall_mem_cons.1 inEdits
    refine ih (fun member => ?_) inRest
    rcases List.mem_append.1 member with member | below
    · exact (List.mem_append.1 member).elim (fun above => inText (List.mem_of_mem_take above)) inEdit
    · exact inText (List.mem_of_mem_drop below)

theorem return_not_mem_editedText {document : Document} {className name : List Char}
    (noReturn : '\r' ∉ document.text) (inClassName : '\r' ∉ className) (inName : '\r' ∉ name) :
    '\r' ∉ document.editedText className name := by
  have inListEdit : '\r' ∉ (document.listEdit name).replacement := by
    have inMark : '\r' ∉ referenceMark := by decide
    refine return_not_mem_appendEntry (fun member => ?_) (by simp [reference, inName, inMark])
      (return_not_mem_listIndent noReturn)
    exact noReturn (List.mem_of_mem_take (List.mem_of_mem_drop member))
  have inImportEdit : ∀ edit ∈ document.importEdit? className, '\r' ∉ edit.replacement := by
    intro edit found
    simp only [importEdit?] at found
    split at found
    · cases found
    · cases found
      split <;> simp [importLine, inClassName]
  refine not_mem_foldl_apply noReturn fun edit member => ?_
  rw [edits] at member
  cases imported : document.importEdit? className with
  | none =>
    simp only [imported, List.mem_singleton] at member
    exact member ▸ inListEdit
  | some importEdit =>
    have both : edit = document.listEdit name ∨ edit = importEdit := by
      simp only [imported] at member
      split at member
      · simpa using member
      · simpa [or_comm] using member
    rcases both with rfl | rfl
    · exact inListEdit
    · exact inImportEdit _ imported

end Document

namespace Layout

variable {layout : Layout} {opening : Nat}

theorem Clear.return_not_mem_register {className name : List Char} (clear : layout.Clear opening)
    (noReturn : '\r' ∉ layout.text) (classNamed : IsClassName className) (named : IsName name) :
    '\r' ∉ (layout.register className name).text := by
  have edited := editedText_eq clear.imported_ne.1 className name
  rw [register, ← edited]
  exact Document.return_not_mem_editedText noReturn classNamed.return_not_mem named.return_not_mem

/-! ## The text after a run -/

theorem listIndent_eq (layout : Layout) :
    layout.document.listIndent = indentation (lastLine layout.front) := by
  have front_eq : layout.document.text.take layout.document.list.start = layout.front := by
    simp [document, text]
  rw [Document.listIndent, front_eq]

/-- In a text without returns the line that opens the list is not changed by what is put above it. -/
theorem Clear.listIndent_extend (clear : layout.Clear opening) (noReturn : '\r' ∉ layout.text)
    {insertion : List Char} (ends : insertion = [] ∨ insertion.getLast? = some '\n')
    (newBody : List Char) :
    (layout.extend insertion newBody).document.listIndent = layout.document.listIndent := by
  rw [listIndent_eq, listIndent_eq]
  cases layout with
  | listFirst upper inner gap lower => rfl
  | importsFirst upper gap inner lower =>
    have found := clear.importsEnd
    have late := clear.le_opening
    have early := clear.opens.opening_lt
    have filled : gap ++ (inner ++ lower) ≠ [] := by
      intro empty
      have gap_nil := (List.append_eq_nil_iff.1 empty).1
      simp only [front, gap_nil, List.append_nil] at early
      omega
    simp only [text, front, body, back, List.append_assoc] at found noReturn
    have feed := getLast?_of_importsEnd? found
      (fun member => noReturn (List.mem_append_left _ member)) filled
    have insertedFeed : (upper ++ insertion).getLast? = some '\n' := by
      rcases ends with rfl | ends
      · rwa [List.append_nil]
      · rw [List.getLast?_append, ends, Option.some_or]
    rw [extend, front, front, lastLine_append feed, lastLine_append insertedFeed]

end Layout

/-- The lines that are added to others one after the other, each of them once. -/
def addedLines (present lines : List (List Char)) : List (List Char) :=
  lines.foldl
    (fun added line =>
      if present.contains line || added.contains line then added else added ++ [line])
    []

theorem addedLines_append (present lines : List (List Char)) (line : List Char) :
    addedLines present (lines ++ [line]) =
      if line ∈ present ∨ line ∈ addedLines present lines then addedLines present lines
      else addedLines present lines ++ [line] := by
  rw [addedLines, List.foldl_append, List.foldl_cons, List.foldl_nil, ← addedLines]
  simp only [Bool.or_eq_true, List.contains_iff_mem]

theorem mem_addedLines {present lines : List (List Char)} {line : List Char} :
    line ∈ addedLines present lines ↔ line ∈ lines ∧ line ∉ present := by
  induction lines using List.reverseRecOn generalizing line with
  | nil => simp [addedLines]
  | append_singleton lines other ih =>
    rw [addedLines_append, List.mem_append, List.mem_singleton]
    by_cases found : other ∈ present ∨ other ∈ addedLines present lines
    · rw [if_pos found, ih]
      rw [ih] at found
      constructor
      · rintro ⟨member, absent⟩
        exact ⟨.inl member, absent⟩
      · rintro ⟨member | rfl, absent⟩
        · exact ⟨member, absent⟩
        · exact found.resolve_left absent
    · rw [if_neg found, List.mem_append, List.mem_singleton, ih]
      rw [not_or] at found
      constructor
      · rintro (⟨member, absent⟩ | rfl)
        · exact ⟨.inl member, absent⟩
        · exact ⟨.inr rfl, found.1⟩
      · rintro ⟨member | same, absent⟩
        · exact .inl ⟨member, absent⟩
        · exact .inr same

theorem nodup_addedLines (present lines : List (List Char)) :
    (addedLines present lines).Nodup := by
  induction lines using List.reverseRecOn with
  | nil => exact List.nodup_nil
  | append_singleton lines other ih =>
    rw [addedLines_append]
    by_cases found : other ∈ present ∨ other ∈ addedLines present lines
    · rwa [if_pos found]
    · rw [if_neg found, List.nodup_append]
      refine ⟨ih, by simp, fun line inAdded last isLast same => ?_⟩
      rw [List.mem_singleton.1 isLast] at same
      exact found (.inr (same ▸ inAdded))

theorem addedLines_perm {present lines order : List (List Char)} (same : order.Perm lines) :
    (addedLines present order).Perm (addedLines present lines) := by
  refine (List.perm_ext_iff_of_nodup (nodup_addedLines _ _) (nodup_addedLines _ _)).2 fun line => ?_
  rw [mem_addedLines, mem_addedLines, same.mem_iff]

/-- The lines put after a text to import classes below it. -/
def importBlock (upper : List Char) (lines : List (List Char)) : List Char :=
  if lines = [] then [] else importFeed upper ++ lines.flatMap (· ++ ['\n'])

theorem importBlock_append (upper : List Char) (lines : List (List Char)) (line : List Char) :
    (importBlock upper (lines ++ [line])).getLast? = some '\n' ∧
      importBlock upper (lines ++ [line]) = importBlock upper lines ++
        (importFeed (upper ++ importBlock upper lines) ++ line ++ ['\n']) := by
  have block_eq (lines : List (List Char)) (line : List Char) :
      importBlock upper (lines ++ [line]) =
        importFeed upper ++ lines.flatMap (· ++ ['\n']) ++ line ++ ['\n'] := by
    simp [importBlock]
  refine ⟨by rw [block_eq, List.getLast?_concat], ?_⟩
  cases lines using List.reverseRecOn with
  | nil => simp [importBlock]
  | append_singleton lines other =>
    have ended : (upper ++ importBlock upper (lines ++ [other])).getLast? = some '\n' := by
      rw [block_eq, ← List.append_assoc, List.getLast?_concat]
    rw [importFeed, if_pos ended, block_eq, block_eq]
    simp

namespace Layout

variable {layout : Layout} {opening : Nat}

/-- The text between the brackets with entries appended to it. -/
def listed (layout : Layout) (entries : List (List Char)) : List Char :=
  if entries = [] then layout.body
  else (ListFrame.ofBody layout.body layout.document.listIndent).around entries

/-- The layout with import lines and entries put into both places. -/
def withClasses (layout : Layout) (lines entries : List (List Char)) : Layout :=
  layout.extend (importBlock layout.imported lines) (layout.listed entries)

/-- The layout of a text in which classes have been registered in turn. -/
def registerEach (layout : Layout) (classes : List (List Char × List Char)) : Layout :=
  classes.foldl (fun layout names => layout.register names.1 names.2) layout

theorem registerEach_append (layout : Layout) (classes : List (List Char × List Char))
    (names : List Char × List Char) :
    layout.registerEach (classes ++ [names]) =
      (layout.registerEach classes).register names.1 names.2 := by
  rw [registerEach, List.foldl_append, List.foldl_cons, List.foldl_nil]
  rfl

theorem Clear.mem_imports_register {className name line : List Char}
    (clear : layout.Clear opening) (classNamed : IsClassName className) (named : IsName name) :
    line ∈ imports (layout.register className name).text ↔
      line ∈ imports layout.text ∨ line = importLine className := by
  obtain ⟨-, above, below, -, before_eq, after_eq⟩ :=
    clear.extend_both classNamed named (layout.appended_register className name)
  rw [← register_eq_extend] at after_eq
  by_cases found : importLine className ∈ imports layout.text
  · rw [if_pos found, List.append_nil, ← before_eq] at after_eq
    rw [after_eq]
    constructor
    · exact .inl
    · rintro (member | rfl)
      · exact member
      · exact found
  · rw [if_neg found] at after_eq
    rw [after_eq, before_eq]
    simp only [List.mem_append, List.mem_singleton]
    constructor
    · rintro ((member | same) | member)
      · exact .inl (.inl member)
      · exact .inr same
      · exact .inl (.inr member)
    · rintro ((member | member) | same)
      · exact .inl (.inl member)
      · exact .inr member
      · exact .inl (.inr same)

/-- What a run of registrations keeps and what it adds, one class after the other. -/
structure Registered (layout : Layout) (classes : List (List Char × List Char))
    (final : Layout) : Prop where
  clear : ∃ opening, final.Clear opening
  noReturn : '\r' ∉ final.text
  layout_eq : final = layout.withClasses
    (addedLines (imports layout.text) (classes.map fun names => importLine names.1))
    (classes.map fun names => reference names.2)
  entries_eq : entries final.body = entries layout.body ++ classes.map fun names => reference names.2
  mem_imports : ∀ line, line ∈ imports final.text ↔
    line ∈ imports layout.text ∨ line ∈ classes.map fun names => importLine names.1
  refersTo : ∀ other, IsName other →
    Composition.refersTo other final.text =
      (Composition.refersTo other layout.text || decide (other ∈ classes.map Prod.snd))

theorem Clear.register {className name : List Char} (clear : layout.Clear opening)
    (classNamed : IsClassName className) (named : IsName name) :
    ∃ opening, (layout.register className name).Clear opening := by
  obtain ⟨newOpening, above, below, extended, -, -⟩ :=
    clear.extend_both classNamed named (layout.appended_register className name)
  rw [← register_eq_extend] at extended
  exact ⟨newOpening, extended⟩

theorem appendEntry_listed (noReturn : '\n' ∉ layout.document.listIndent)
    {entries : List (List Char)} (isEntry : ∀ entry ∈ entries, IsEntry entry)
    (entry : List Char) :
    appendEntry (layout.listed entries) entry layout.document.listIndent =
      layout.listed (entries ++ [entry]) := by
  have even := ListFrame.even_ofBody (isAllBlank_listIndent layout.document) noReturn layout.body
  cases entries using List.reverseRecOn with
  | nil => simp [listed, ListFrame.appendEntry_eq]
  | append_singleton entries last =>
    have filled {others : List (List Char)} {other : List Char} : others ++ [other] ≠ [] := by simp
    rw [listed, if_neg filled, even.appendEntry_around isEntry, listed, if_neg filled]

theorem Clear.withClasses_append {className name : List Char} {lines entries : List (List Char)}
    {final : Layout} (clear : layout.Clear opening) (noReturn : '\r' ∉ layout.text)
    (isEntry : ∀ entry ∈ entries, IsEntry entry) (final_eq : final = layout.withClasses lines entries) :
    final.register className name =
      layout.withClasses
        (if importLine className ∈ imports final.text then lines
          else lines ++ [importLine className])
        (entries ++ [reference name]) := by
  have ends : importBlock layout.imported lines = [] ∨
      (importBlock layout.imported lines).getLast? = some '\n' := by
    cases lines using List.reverseRecOn with
    | nil => exact .inl rfl
    | append_singleton lines last => exact .inr (importBlock_append _ _ _).1
  have indent_eq : final.document.listIndent = layout.document.listIndent := by
    rw [final_eq]
    exact clear.listIndent_extend noReturn ends _
  have body_eq : final.body = layout.listed entries := by
    rw [final_eq, withClasses, extend_body]
  have feed_eq : importFeed final.imported =
      importFeed (layout.imported ++ importBlock layout.imported lines) := by
    rw [final_eq]
    exact importFeed_extend clear.imported_ne.2 _ _
  have unbroken : '\n' ∉ layout.document.listIndent :=
    ListFrame.feed_not_mem_indentation (feed_not_mem_lastLine _)
  have extended (inserted : List Char) :
      final.extend inserted (layout.listed (entries ++ [reference name])) =
        layout.extend (importBlock layout.imported lines ++ inserted)
          (layout.listed (entries ++ [reference name])) := by
    rw [final_eq, withClasses, extend_extend]
  rw [Layout.register, body_eq, indent_eq, appendEntry_listed unbroken isEntry, extended, insertion]
  by_cases found : importLine className ∈ imports final.text
  · rw [if_pos found, if_pos found, List.append_nil, withClasses]
  · rw [if_neg found, if_neg found, withClasses, (importBlock_append _ _ _).2, importing, feed_eq]

theorem Clear.registered {classes : List (List Char × List Char)} (clear : layout.Clear opening)
    (noReturn : '\r' ∉ layout.text)
    (named : ∀ names ∈ classes, IsClassName names.1 ∧ IsName names.2) :
    layout.Registered classes (layout.registerEach classes) := by
  -- The last class comes into the layout that those before it left, all of which is read off the
  -- first layout.
  induction classes using List.reverseRecOn with
  | nil =>
    refine ⟨⟨opening, clear⟩, noReturn, layout.extend_self.symm, ?_, fun line => ?_,
      fun other _ => ?_⟩
    · simp [registerEach]
    · simp [registerEach]
    · simp [registerEach]
  | append_singleton classes names ih =>
    obtain ⟨⟨finalOpening, finalClear⟩, finalReturn, layout_eq, entries_eq, mem_imports,
      refersTo_eq⟩ :=
      ih fun names member => named names (List.mem_append_left _ member)
    obtain ⟨classNamed, nameNamed⟩ := named names (by simp)
    rw [registerEach_append]
    generalize layout.registerEach classes = final at *
    refine ⟨finalClear.register classNamed nameNamed,
      finalClear.return_not_mem_register finalReturn classNamed nameNamed, ?_, ?_, fun line => ?_,
      fun other otherNamed => ?_⟩
    · have isEntry : ∀ entry ∈ classes.map fun names => reference names.2, IsEntry entry := by
        intro entry member
        obtain ⟨other, inClasses, rfl⟩ := List.mem_map.1 member
        exact isEntry_reference (named other (List.mem_append_left _ inClasses)).2
      have present : importLine names.1 ∈ imports final.text ↔
          importLine names.1 ∈ imports layout.text ∨
            importLine names.1 ∈ addedLines (imports layout.text)
              (classes.map fun names => importLine names.1) := by
        rw [mem_imports, mem_addedLines]
        by_cases found : importLine names.1 ∈ imports layout.text <;> simp [found]
      rw [clear.withClasses_append noReturn isEntry layout_eq, List.map_append, List.map_append,
        List.map_singleton, List.map_singleton, addedLines_append]
      congr 1
      exact if_congr present rfl rfl
    · rw [(final.appended_register names.1 names.2).entries_eq (isEntry_reference nameNamed),
        entries_eq, List.map_append, List.map_singleton, List.append_assoc]
    · rw [finalClear.mem_imports_register classNamed nameNamed, mem_imports, List.map_append,
        List.mem_append, List.map_singleton, List.mem_singleton, or_assoc]
    · rw [finalClear.refersTo_register classNamed nameNamed otherNamed,
        refersTo_eq other otherNamed, Bool.or_assoc, ← Bool.decide_or]
      congr 1
      refine decide_eq_decide.2 ?_
      rw [List.map_append, List.mem_append, List.map_singleton, List.mem_singleton]

end Layout

end Scaffold.Composition
