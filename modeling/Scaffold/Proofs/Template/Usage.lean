import Scaffold.Proofs.Template.Imports
import Scaffold.Proofs.Template.Part
import Scaffold.Proofs.Text.Source
import Scaffold.Template.Library

/-!
# What the parts of a source text say

Whether the imports, the declarations and the uses of a source text agree is seen in its fixed parts, as
long as the values that are filled in say nothing of classes and variables.
-/

set_option autoImplicit false

namespace Scaffold.Template

open Source Text

variable {plain : String → Bool} {values lists : String → List Char} {part : Part}
  {sheetParts : List Part} {name : String}

def Part.isFixed : Part → Bool
  | .fixed _ => true
  | .value _ => false
  | .imports _ => false

/-- Whether a list of imports is filled in. -/
def Part.isBlock : Part → Bool
  | .imports _ => true
  | .fixed _ => false
  | .value _ => false

/-- The marks of a part if its text is fixed. -/
def Part.fixedMarks {α : Type} (table : MarkTable α) : Part → List α
  | .fixed text => codedMarks table text
  | .value _ => []
  | .imports _ => []

theorem filled_signTable : ∀ entry ∈ signTable, entry.1 ≠ [] := by
  decide

/-- What the fixed parts say of variables. -/
def fixedSigns (parts : List Part) : List Sign :=
  parts.flatMap (Part.fixedMarks signTable)

/-- Whether the values that are filled in say no more of variables than that lines end and methods
begin, and plain ones are words. -/
structure Quiet (plain : String → Bool) (values lists : String → List Char) (parts : List Part) :
    Prop where
  words : ∀ name, plain name = true → ∀ character ∈ values name, isWord character
  faint : ∀ part ∈ parts, part.isFixed = false →
    ∀ sign ∈ signs (part.text values lists), sign = .feed ∨ sign = .begins

/-- Words say nothing of variables. -/
theorem signs_of_words {text : List Char} (words : ∀ character ∈ text, isWord character) :
    signs text = [] := by
  refine List.eq_nil_iff_forall_not_mem.2 fun sign marked => ?_
  obtain ⟨entry, listed, -, stands⟩ := exists_isInfix_of_mem_marks marked
  have foreign : ∀ entry ∈ signTable, entry.1.any (!isWord ·) = true := by decide
  obtain ⟨character, among, other⟩ := List.any_eq_true.1 (foreign entry listed)
  rw [words character (stands.subset among)] at other
  cases other

theorem Quiet.of_cons {parts : List Part} (quiet : Quiet plain values lists (part :: parts)) :
    Quiet plain values lists parts :=
  ⟨quiet.words, fun other member => quiet.faint other (List.mem_cons_of_mem part member)⟩

/-! ## Declarations -/

instance (said : List Sign) (name : String) : Decidable (IsDeclared said name) :=
  inferInstanceAs (Decidable (_ ∧ _))

/-- A sign that is no feed and no beginning is said as often as in the fixed parts. -/
theorem count_signs {parts : List Part} (quiet : Quiet plain values lists parts) (sign : Sign)
    (loud : sign ≠ .feed ∧ sign ≠ .begins) :
    (parts.flatMap fun part => signs (part.text values lists)).count sign =
      (fixedSigns parts).count sign := by
  induction parts with
  | nil => rfl
  | cons part parts ih =>
    have here : (signs (part.text values lists)).count sign =
        (fixedSigns [part]).count sign := by
      cases fixed : part.isFixed with
      | true =>
        cases part with
        | fixed text =>
          rw [fixedSigns, List.flatMap_singleton, Part.fixedMarks, codedMarks_eq filled_signTable]
          rfl
        | value name => cases fixed
        | imports name => cases fixed
      | false =>
        have unsaid : sign ∉ signs (part.text values lists) := by
          intro said
          rcases quiet.faint part List.mem_cons_self fixed sign said with same | same
          · exact loud.1 same
          · exact loud.2 same
        rw [List.count_eq_zero_of_not_mem unsaid]
        cases part with
        | fixed text => cases fixed
        | value name => rfl
        | imports name => rfl
    have split : fixedSigns (part :: parts) = fixedSigns [part] ++ fixedSigns parts := by
      rw [fixedSigns, fixedSigns, fixedSigns, List.flatMap_singleton, List.flatMap_cons]
    rw [List.flatMap_cons, List.count_append, here, ih quiet.of_cons, split, List.count_append]

theorem isDeclared_fill {parts : List Part} (quiet : Quiet plain values lists parts)
    (apart : areApart signTable plain parts = true) (declared : IsDeclared (fixedSigns parts) name) :
    IsDeclared (signs (fill values lists parts)) name := by
  rw [signs, marks_fill quiet.words apart]
  have declares := count_signs quiet (.declares name) ⟨nofun, nofun⟩
  have uses := count_signs quiet (.uses name) ⟨nofun, nofun⟩
  obtain ⟨once, ifUsed⟩ := declared
  refine ⟨declares ▸ once, ?_⟩
  intro used
  rw [← List.count_pos_iff] at used ⊢
  exact declares ▸ List.count_pos_iff.2 (ifUsed (List.count_pos_iff.1 (uses ▸ used)))

/-! ## Assignments -/

/-- The stage of a variable after some parts. What is not known to be a word may be there only as long as
the variable is not assigned. -/
def stageAfter (plain : String → Bool) (name : String) (stage : Stage) : Part → Option Stage
  | .fixed text => (codedMarks signTable text).foldlM (Stage.after name) stage
  | .value value => if plain value || stage == .unassigned then some stage else none
  | .imports _ => if stage == .unassigned then some stage else none

theorem foldlM_of_faint {said : List Sign} (faint : ∀ sign ∈ said, sign = .feed ∨ sign = .begins) :
    said.foldlM (Stage.after name) .unassigned = some .unassigned := by
  induction said with
  | nil => rfl
  | cons sign said ih =>
    obtain ⟨here, below⟩ := List.forall_mem_cons.1 faint
    rcases here with rfl | rfl
    · exact ih below
    · exact ih below

theorem foldlM_of_stageAfter {stage next : Stage} {parts : List Part}
    (quiet : Quiet plain values lists parts) (among : part ∈ parts)
    (moved : stageAfter plain name stage part = some next) :
    (signs (part.text values lists)).foldlM (Stage.after name) stage = some next := by
  cases part with
  | fixed text =>
    rw [stageAfter, codedMarks_eq filled_signTable] at moved
    exact moved
  | value value =>
    simp only [stageAfter] at moved
    split at moved
    · next allowed =>
      cases moved
      rcases Bool.or_eq_true_iff.1 allowed with wordly | nothing
      · rw [Part.text, signs_of_words (quiet.words value wordly)]
        rfl
      · rw [eq_of_beq nothing]
        exact foldlM_of_faint (quiet.faint _ among rfl)
    · cases moved
  | imports value =>
    simp only [stageAfter] at moved
    split at moved
    · next nothing =>
      cases moved
      rw [eq_of_beq nothing]
      exact foldlM_of_faint (quiet.faint _ among rfl)
    · cases moved

theorem foldlM_signs {stage next : Stage} {parts : List Part}
    (quiet : Quiet plain values lists parts)
    (moved : parts.foldlM (stageAfter plain name) stage = some next) :
    (parts.flatMap fun part => signs (part.text values lists)).foldlM (Stage.after name) stage =
      some next := by
  induction parts generalizing stage with
  | nil => exact moved
  | cons part parts ih =>
    rw [List.foldlM_cons] at moved
    obtain ⟨middle, movedHere, movedBelow⟩ := Option.bind_eq_some_iff.1 moved
    rw [List.flatMap_cons, List.foldlM_append,
      foldlM_of_stageAfter quiet List.mem_cons_self movedHere]
    exact ih quiet.of_cons movedBelow

theorem isUsedWhereAssigned_fill {parts : List Part} (quiet : Quiet plain values lists parts)
    (apart : areApart signTable plain parts = true)
    (followed : (parts.foldlM (stageAfter plain name) .unassigned).isSome) :
    IsUsedWhereAssigned (signs (fill values lists parts)) name := by
  obtain ⟨stage, moved⟩ := Option.isSome_iff_exists.1 followed
  refine isUsedWhereAssigned_of_foldlM ?_
  rw [signs, marks_fill quiet.words apart]
  exact Option.isSome_iff_exists.2 ⟨stage, foldlM_signs quiet moved⟩

/-! ## Imports and names -/

def classTable : MarkTable String :=
  optionalClasses.map fun name => (name.toList, name)

theorem filled_classTable : ∀ entry ∈ classTable, entry.1 ≠ [] := by
  decide

theorem isInfix_of_mem_marks_classTable {text : List Char} (marked : name ∈ marks classTable text) :
    name.toList <:+: text := by
  obtain ⟨entry, among, same, stands⟩ := exists_isInfix_of_mem_marks marked
  obtain ⟨original, -, rfl⟩ := List.mem_map.1 among
  subst same
  exact stands

/-- The optional classes that the fixed parts name. -/
def fixedNames (parts : List Part) : List String :=
  parts.flatMap (Part.fixedMarks classTable)

theorem not_isInfix_fill {parts : List Part} (optional : name ∈ optionalClasses)
    (words : ∀ name, plain name = true → ∀ character ∈ values name, isWord character)
    (apart : areApart classTable plain parts = true) (unnamed : name ∉ fixedNames parts)
    (absent : ∀ part ∈ parts, part.isFixed = false → ¬name.toList <:+: part.text values lists) :
    ¬name.toList <:+: fill values lists parts := by
  intro stands
  have listed : (name.toList, name) ∈ classTable := List.mem_map.2 ⟨name, optional, rfl⟩
  -- No class is the beginning of another one.
  have distinct : ∀ entry ∈ classTable, ∀ other ∈ classTable,
      other.1 <+: entry.1 ∨ entry.1 <+: other.1 → other = entry := by
    decide
  obtain ⟨other, among, alike, marked⟩ := exists_mark_of_isInfix listed (filled_classTable _ listed) stands
  rw [distinct _ listed other among alike, marks_fill words apart] at marked
  obtain ⟨part, member, marked⟩ := List.mem_flatMap.1 marked
  cases part with
  | fixed text =>
    refine unnamed (List.mem_flatMap.2 ⟨_, member, ?_⟩)
    rw [Part.fixedMarks, codedMarks_eq filled_classTable]
    exact marked
  | value value | imports value =>
    exact absent _ member rfl (isInfix_of_mem_marks_classTable marked)

/-- The text of a line, if it is fixed. -/
def fixedLine? : List Part → Option (List Char)
  | [] => some []
  | .fixed text :: parts => (fixedLine? parts).map (text ++ ·)
  | _ :: _ => none

theorem fill_of_fixedLine? {line : List Part} {text : List Char} (fixed : fixedLine? line = some text) :
    fill values lists line = text := by
  induction line generalizing text with
  | nil =>
    cases fixed
    rfl
  | cons part line ih =>
    cases part with
    | fixed front =>
      obtain ⟨back, fixedBack, rfl⟩ := Option.map_eq_some_iff.1 fixed
      rw [fill_cons, ih fixedBack, Part.text]
    | value name => cases fixed
    | imports name => cases fixed

theorem splitOn_of_not_mem {line : List Char} (whole : '\n' ∉ line) : line.splitOn '\n' = [line] := by
  refine List.splitOnP_eq_singleton fun character member => beq_eq_false_iff_ne.2 ?_
  intro same
  exact whole (same ▸ member)

/-- A fixed line is a line of what is filled in. -/
theorem mem_splitOn_fill {parts line : List Part} {text : List Char} (among : line ∈ sheet parts)
    (fixed : fixedLine? line = some text) (whole : '\n' ∉ text) :
    text ∈ (fill values lists parts).splitOn '\n' := by
  rw [splitOn_fill]
  refine List.mem_flatMap.2 ⟨line, among, ?_⟩
  rw [fill_of_fixedLine? fixed, splitOn_of_not_mem whole]
  exact List.mem_singleton_self text

/-- Whether some fixed line has a property. -/
def hasFixedLine (holds : List Char → Bool) (parts : List Part) : Bool :=
  (sheet parts).any fun line => (fixedLine? line).any fun text => !text.contains '\n' && holds text

theorem exists_of_hasFixedLine {holds : List Char → Bool} {parts : List Part}
    (found : hasFixedLine holds parts = true) :
    ∃ text ∈ (fill values lists parts).splitOn '\n', holds text = true := by
  obtain ⟨line, among, found⟩ := List.any_eq_true.1 found
  obtain ⟨text, fixed, found⟩ := (Option.any_eq_true _ _).1 found
  obtain ⟨whole, holdsHere⟩ := Bool.and_eq_true_iff.1 found
  refine ⟨text, mem_splitOn_fill among fixed ?_, holdsHere⟩
  intro member
  rw [List.contains_iff_mem.2 member] at whole
  cases whole

/-- Whether a line names an optional class and does not import it. -/
def namesClass (name : String) (line : List Char) : Bool :=
  decide (importedClass? line ≠ some name.toList) && (codedMarks classTable line).contains name

theorem isNamed_fill {parts : List Part} (named : hasFixedLine (namesClass name) parts = true) :
    IsNamed (fill values lists parts) name.toList := by
  obtain ⟨line, among, names⟩ := exists_of_hasFixedLine named
  obtain ⟨other, marked⟩ := Bool.and_eq_true_iff.1 names
  rw [codedMarks_eq filled_classTable] at marked
  exact ⟨line, among, of_decide_eq_true other,
    isInfix_of_mem_marks_classTable (List.contains_iff_mem.1 marked)⟩

/-! ## Texts that are filled in -/

/-- Whether a text that is filled in says no more of variables than that lines end and methods begin, and
names no class that is not wanted. -/
structure IsFiller (wanted : String → Bool) (text : List Char) : Prop where
  faint : ∀ sign ∈ signs text, sign = .feed ∨ sign = .begins
  nameless : ∀ name ∈ optionalClasses, wanted name = false → ¬name.toList <:+: text

variable {wanted : String → Bool} {text : List Char}

/-- A text without identifiers may be filled in. -/
theorem isFiller_of_isForeign (foreign : IsForeign text) : IsFiller wanted text where
  faint sign said := by
    have identified : ∀ entry ∈ signTable, (entry.2 = .feed ∨ entry.2 = .begins) ∨
        ∃ identifier ∈ identifiers, identifier.toList <:+: entry.1 := by
      decide
    obtain ⟨entry, listed, rfl, stands⟩ := exists_isInfix_of_mem_marks said
    rcases identified entry listed with faint | ⟨identifier, among, inside⟩
    · exact faint
    · exact absurd (inside.trans stands) (foreign identifier among)
  nameless name optional _ :=
    foreign name (List.mem_append_left _ (List.mem_append_left _ optional))

theorem isFiller_of_isForeignWord (foreign : IsForeignWord text) : IsFiller wanted text where
  faint sign said := by
    rw [signs_of_words foreign.words] at said
    cases said
  nameless name optional _ := foreign.classless name optional

/-- A text without the marks of variables says nothing of them. -/
theorem faint_of_unmarked (noDollar : '$' ∉ text) (noArrow : '>' ∉ text) :
    ∀ sign ∈ signs text, sign = .feed ∨ sign = .begins := by
  have marked : ∀ entry ∈ signTable, (entry.2 = .feed ∨ entry.2 = .begins) ∨
      '$' ∈ entry.1 ∨ '>' ∈ entry.1 := by
    decide
  intro sign said
  obtain ⟨entry, listed, rfl, stands⟩ := exists_isInfix_of_mem_marks said
  rcases marked entry listed with faint | dollar | arrow
  · exact faint
  · exact absurd (stands.subset dollar) noDollar
  · exact absurd (stands.subset arrow) noArrow

/-- The fixed text of parts. -/
def bare (parts : List Part) : List Char :=
  fill (fun _ => []) (fun _ => []) parts

theorem not_mem_fill {character : Char} {parts : List Part} (unfixed : character ∉ bare parts)
    (unfilled : ∀ part ∈ parts, part.isFixed = false → character ∉ part.text values lists) :
    character ∉ fill values lists parts := by
  intro member
  obtain ⟨part, among, inside⟩ := List.mem_flatMap.1 member
  cases part with
  | fixed text => exact unfixed (List.mem_flatMap.2 ⟨_, among, inside⟩)
  | value name | imports name => exact unfilled _ among rfl inside

/-- A text in lower case may be filled in, since no class is. -/
theorem isFiller_of_settled (settled : ∀ character ∈ text, lowerOf character = [character])
    (noDollar : '$' ∉ text) (noArrow : '>' ∉ text) : IsFiller wanted text where
  faint := faint_of_unmarked noDollar noArrow
  nameless name optional _ stands := by
    have raised : ∀ name ∈ optionalClasses,
        (name.toList.any fun character => lowerOf character ≠ [character]) = true := by
      decide
    obtain ⟨character, among, unsettled⟩ := List.any_eq_true.1 (raised name optional)
    exact of_decide_eq_true unsettled (settled character (stands.subset among))

/-- Whether parts are a path that is filled in with names, and has no class and no mark in its fixed
text. -/
structure IsPath (parts : List Part) : Prop where
  apart : areApart classTable (fun _ => true) parts = true
  unnamed : fixedNames parts = []
  unlisted : ∀ part ∈ parts, part.isBlock = false
  unmarked : ∀ mark ∈ ['\n', '(', '$', '>'], mark ∉ bare parts

instance (parts : List Part) : Decidable (IsPath parts) :=
  decidable_of_iff
    (areApart classTable (fun _ => true) parts = true ∧ fixedNames parts = [] ∧
      (∀ part ∈ parts, part.isBlock = false) ∧
      ['\n', '(', '$', '>'].all (· ∉ bare parts) = true)
    ⟨fun ⟨apart, unnamed, unlisted, unmarked⟩ =>
        ⟨apart, unnamed, unlisted, List.all_iff_forall_prop.1 unmarked⟩,
      fun path =>
        ⟨path.apart, path.unnamed, path.unlisted, List.all_iff_forall_prop.2 path.unmarked⟩⟩

namespace IsPath

variable {parts : List Part} (path : IsPath parts)
  (foreign : ∀ name, IsForeignWord (values name))

include path foreign

theorem isForeignWord_text (among : part ∈ parts) (unfixed : part.isFixed = false) :
    IsForeignWord (part.text values lists) := by
  have unlisted := path.unlisted part among
  cases part with
  | fixed text => cases unfixed
  | value name => exact foreign name
  | imports name => cases unlisted

theorem not_mem {mark : Char} (listed : mark ∈ ['\n', '(', '$', '>']) :
    mark ∉ fill values lists parts := by
  refine not_mem_fill (path.unmarked mark listed) fun part among unfixed member => ?_
  have other : ∀ mark ∈ ['\n', '(', '$', '>'], isWord mark = false :=
    List.all_iff_forall_prop.1 (by decide)
  have word := (path.isForeignWord_text foreign among unfixed).words mark member
  rw [other mark listed] at word
  cases word

theorem classless (optional : name ∈ optionalClasses) : ¬name.toList <:+: fill values lists parts := by
  refine not_isInfix_fill optional (fun value _ => (foreign value).words) path.apart ?_
    fun part among unfixed => (path.isForeignWord_text foreign among unfixed).classless name optional
  rw [path.unnamed]
  exact List.not_mem_nil

theorem isFiller : IsFiller wanted (fill values lists parts) where
  faint := faint_of_unmarked (path.not_mem foreign (by decide)) (path.not_mem foreign (by decide))
  nameless _ optional _ := path.classless foreign optional

end IsPath

/-- Whether names to import are those of the wanted classes and of others that are not optional. -/
structure ImportsFor (wanted : String → Bool) (names : List String) : Prop where
  filled : names ≠ []
  unmarked : ∀ name ∈ names, ∀ mark ∈ ['\n', '$', '>'], mark ∉ name.toList
  given : ∀ optional ∈ optionalClasses, wanted optional = true →
    ∃ name ∈ names, importedClass? (importLine name).toList = some optional.toList
  nameless : ∀ optional ∈ optionalClasses, wanted optional = false →
    ∀ name ∈ names, ¬optional.toList <:+: (importLine name).toList

/-- Whether a name can be imported whatever is wanted. -/
structure IsPlainImport (name : String) : Prop where
  unmarked : ∀ mark ∈ ['\n', '$', '>'], mark ∉ name.toList
  classless : ∀ optional ∈ optionalClasses, ¬optional.toList <:+: (importLine name).toList

/-- Whether the wanted groups of names to import are those of the wanted classes. -/
structure GroupsFor (wanted : String → Bool) (groups : List ImportGroup) : Prop where
  unmarked : ∀ group ∈ groups, ∀ name ∈ group.names, ∀ mark ∈ ['\n', '$', '>'],
    mark ∉ name.toList
  given : ∀ optional ∈ optionalClasses, wanted optional = true →
    ∃ group ∈ groups, group.wanted = true ∧
      ∃ name ∈ group.names, importedClass? (importLine name).toList = some optional.toList
  nameless : ∀ optional ∈ optionalClasses, wanted optional = false →
    ∀ group ∈ groups, group.wanted = true →
      ∀ name ∈ group.names, ¬optional.toList <:+: (importLine name).toList

/-- The letters of an import line, found quickly. -/
def importLetters (name : String) : List Char :=
  letters "use " ++ (letters name ++ letters ";")

theorem importLetters_eq (name : String) : importLetters name = (importLine name).toList := by
  simp only [importLetters, letters_eq, importLine, String.toList_append, List.append_assoc]

instance (name : String) : Decidable (IsPlainImport name) :=
  decidable_of_iff
    (['\n', '$', '>'].all (· ∉ letters name) = true ∧
      ∀ optional ∈ optionalClasses, ¬letters optional <:+: importLetters name)
    (by simp only [letters_eq, importLetters_eq]
        exact ⟨fun ⟨unmarked, classless⟩ => ⟨List.all_iff_forall_prop.1 unmarked, classless⟩,
          fun plain => ⟨List.all_iff_forall_prop.2 plain.unmarked, plain.classless⟩⟩)

instance (wanted : String → Bool) (groups : List ImportGroup) : Decidable (GroupsFor wanted groups) :=
  decidable_of_iff
    ((∀ group ∈ groups, ∀ name ∈ group.names,
        ['\n', '$', '>'].all (· ∉ letters name) = true) ∧
      (∀ optional ∈ optionalClasses, wanted optional = true →
        ∃ group ∈ groups, group.wanted = true ∧
          ∃ name ∈ group.names, importedClass? (importLetters name) = some (letters optional)) ∧
      ∀ optional ∈ optionalClasses, wanted optional = false →
        ∀ group ∈ groups, group.wanted = true →
          ∀ name ∈ group.names, ¬letters optional <:+: importLetters name)
    (by simp only [letters_eq, importLetters_eq]
        exact ⟨fun ⟨unmarked, given, nameless⟩ =>
            ⟨fun group among name named =>
              List.all_iff_forall_prop.1 (unmarked group among name named), given, nameless⟩,
          fun groupsFor =>
            ⟨fun group among name named =>
              List.all_iff_forall_prop.2 (groupsFor.unmarked group among name named),
              groupsFor.given, groupsFor.nameless⟩⟩)

theorem importsFor_importNames {base : List String} {groups : List ImportGroup} (filled : base ≠ [])
    (plain : ∀ name ∈ base, IsPlainImport name) (grouped : GroupsFor wanted groups) :
    ImportsFor wanted (importNames base groups) where
  filled := importNames_ne_nil filled groups
  unmarked := forall_mem_importNames (fun name member => (plain name member).unmarked)
    grouped.unmarked
  given optional listed needed := by
    obtain ⟨group, among, isWanted, name, named, reads⟩ := grouped.given optional listed needed
    exact ⟨name, mem_importNames_iff.2 (.inr ⟨group, among, isWanted, named⟩), reads⟩
  nameless optional listed unwanted name member := by
    rcases mem_importNames_iff.1 member with inBase | ⟨group, among, isWanted, named⟩
    · exact (plain name inBase).classless optional listed
    · exact grouped.nameless optional listed unwanted group among isWanted name named

theorem ImportsFor.isFiller {names : List String} (imports : ImportsFor wanted names) :
    IsFiller wanted (importBlock names) := by
  have absent {character : Char} (marks : character ∈ ['\n', '$', '>'])
      (other : character ∉ "use ;".toList) (unfed : character ≠ '\n') :
      character ∉ importBlock names := by
    have outside : ∀ result ∈ importBlock names, result ≠ character := by
      refine forall_mem_intercalate ?_ ?_
      · intro result member
        rw [List.mem_singleton.1 member]
        exact unfed.symm
      · refine List.forall_mem_map.2 fun name member result among same => ?_
        exact not_mem_importLine (imports.unmarked name member character marks) other (same ▸ among)
    exact fun member => outside character member rfl
  refine ⟨faint_of_unmarked (absent (by decide) (by decide) (by decide))
    (absent (by decide) (by decide) (by decide)), fun optional listed unwanted stands => ?_⟩
  have whole : ∀ name ∈ optionalClasses, name.toList ≠ [] ∧ '\n' ∉ name.toList := by decide
  obtain ⟨filled, unfed⟩ := whole optional listed
  obtain ⟨line, among, standsThere⟩ := exists_isInfix_of_intercalate filled unfed stands
  obtain ⟨name, member, rfl⟩ := List.mem_map.1 among
  exact imports.nameless optional listed unwanted name member standsThere

/-! ## All of it -/

def importsClass (name : String) (line : List Char) : Bool :=
  decide (importedClass? line = some name.toList)

/-- Whether the fixed parts of a source text agree if just the wanted classes are imported. Only some
values are filled in, and plain ones are words. A list of imports fills lines of its own. -/
structure AgreesBy (plain : List String) (gaps : List Part) (wanted : String → Bool)
    (parts : List Part) : Prop where
  among : ∀ part ∈ parts, part.isFixed = false → part ∈ gaps
  alone : ∀ gap ∈ gaps, gap.isBlock = true → [gap] ∈ sheet parts
  signsApart : areApart signTable (plain.contains ·) parts = true
  namesApart : areApart classTable (plain.contains ·) parts = true
  isDeclared : ∀ declared ∈ declaredVariables, IsDeclared (fixedSigns parts) declared.2
  isFollowed : ∀ name ∈ localVariables,
    (parts.foldlM (stageAfter (plain.contains ·) name) .unassigned).isSome = true
  imported : ∀ name ∈ optionalClasses, wanted name = true →
    (∃ gap ∈ gaps, gap.isBlock = true) ∨ hasFixedLine (importsClass name) parts = true
  named : ∀ name ∈ optionalClasses, wanted name = true →
    hasFixedLine (namesClass name) parts = true
  unnamed : ∀ name ∈ optionalClasses, wanted name = false → name ∉ fixedNames parts

instance (plain : List String) (gaps : List Part) (wanted : String → Bool) (parts : List Part) :
    Decidable (AgreesBy plain gaps wanted parts) :=
  decidable_of_iff
    ((∀ part ∈ parts, part.isFixed = false → part ∈ gaps) ∧
      (∀ gap ∈ gaps, gap.isBlock = true → [gap] ∈ sheet parts) ∧
      areApart signTable (plain.contains ·) parts = true ∧
      areApart classTable (plain.contains ·) parts = true ∧
      (∀ declared ∈ declaredVariables, IsDeclared (fixedSigns parts) declared.2) ∧
      (∀ name ∈ localVariables,
        (parts.foldlM (stageAfter (plain.contains ·) name) .unassigned).isSome = true) ∧
      (∀ name ∈ optionalClasses, wanted name = true →
        (∃ gap ∈ gaps, gap.isBlock = true) ∨ hasFixedLine (importsClass name) parts = true) ∧
      (∀ name ∈ optionalClasses, wanted name = true →
        hasFixedLine (namesClass name) parts = true) ∧
      ∀ name ∈ optionalClasses, wanted name = false → name ∉ fixedNames parts)
    ⟨fun ⟨among, alone, signsApart, namesApart, isDeclared, isFollowed, imported, named, unnamed⟩ =>
      ⟨among, alone, signsApart, namesApart, isDeclared, isFollowed, imported, named, unnamed⟩,
      fun agrees => ⟨agrees.among, agrees.alone, agrees.signsApart, agrees.namesApart,
        agrees.isDeclared, agrees.isFollowed, agrees.imported, agrees.named, agrees.unnamed⟩⟩

/-- Whether texts may be filled in for values, and lists of imports are those of the wanted classes. -/
structure Fills (values lists : String → List Char) (plain : List String) (gaps : List Part)
    (wanted : String → Bool) : Prop where
  words : ∀ name ∈ plain, ∀ character ∈ values name, isWord character
  isFiller : ∀ gap ∈ gaps, gap.isBlock = false → IsFiller wanted (gap.text values lists)
  imports : ∀ gap ∈ gaps, gap.isBlock = true →
    ∃ names, ImportsFor wanted names ∧ gap.text values lists = importBlock names

theorem fills_of_partition {plain : List String} {gaps blocks others : List Part}
    (split : gaps.partition (·.isBlock) = (blocks, others))
    (words : ∀ name ∈ plain, ∀ character ∈ values name, isWord character)
    (isFiller : ∀ gap ∈ others, IsFiller wanted (gap.text values lists))
    (imports : ∀ gap ∈ blocks,
      ∃ names, ImportsFor wanted names ∧ gap.text values lists = importBlock names) :
    Fills values lists plain gaps wanted := by
  rw [List.partition_eq_filter_filter, Prod.mk.injEq] at split
  obtain ⟨rfl, rfl⟩ := split
  refine ⟨words, fun gap among unblocked => isFiller gap (List.mem_filter.2 ⟨among, ?_⟩),
    fun gap among block => imports gap (List.mem_filter.2 ⟨among, block⟩)⟩
  rw [Function.comp_apply, unblocked]
  rfl

/-- A list of imports imports the wanted classes. -/
theorem mem_importedClasses_of_block {parts : List Part} {gap : Part} {names : List String}
    (alone : [gap] ∈ sheet parts) (imports : ImportsFor wanted names)
    (text_eq : gap.text values lists = importBlock names) (optional : name ∈ optionalClasses)
    (needed : wanted name = true) : name.toList ∈ importedClasses (fill values lists parts) := by
  obtain ⟨listed, member, read⟩ := imports.given name optional needed
  refine List.mem_filterMap.2 ⟨(importLine listed).toList, ?_, read⟩
  have gap_eq : fill values lists [gap] = importBlock names := by
    rw [← text_eq, fill_cons]
    exact List.append_nil _
  rw [splitOn_fill]
  refine List.mem_flatMap.2 ⟨[gap], alone, ?_⟩
  rw [gap_eq, splitOn_importBlock imports.filled fun other among =>
    imports.unmarked other among '\n' List.mem_cons_self]
  exact List.mem_map.2 ⟨listed, member, rfl⟩

/-- A source text agrees if its fixed parts do and what is filled in says nothing more. -/
theorem agrees_fill {plain : List String} {gaps parts : List Part}
    (agrees : AgreesBy plain gaps wanted parts) (fills : Fills values lists plain gaps wanted) :
    Agrees (fill values lists parts) := by
  have wordly : ∀ name, plain.contains name = true → ∀ character ∈ values name, isWord character :=
    fun name listed => fills.words name (List.contains_iff_mem.1 listed)
  have filler : ∀ gap ∈ gaps, IsFiller wanted (gap.text values lists) := by
    intro gap member
    cases block : gap.isBlock with
    | false => exact fills.isFiller gap member block
    | true =>
      obtain ⟨names, imports, text_eq⟩ := fills.imports gap member block
      exact text_eq ▸ imports.isFiller
  have quiet : Quiet (plain.contains ·) values lists parts :=
    ⟨wordly, fun part member unfixed => (filler part (agrees.among part member unfixed)).faint⟩
  refine ⟨fun name optional => ?_, fun declared listed => ?_, fun name listed => ?_⟩
  · cases needed : wanted name with
    | true =>
      refine imported_iff_named_of_both ?_ (isNamed_fill (agrees.named name optional needed))
      rcases agrees.imported name optional needed with ⟨gap, member, block⟩ | here
      · obtain ⟨names, imports, text_eq⟩ := fills.imports gap member block
        exact mem_importedClasses_of_block (agrees.alone gap member block) imports text_eq optional
          needed
      · obtain ⟨line, among, reads⟩ := exists_of_hasFixedLine here
        exact List.mem_filterMap.2 ⟨line, among, of_decide_eq_true reads⟩
    | false =>
      refine imported_iff_named_of_absent (not_isInfix_fill optional wordly agrees.namesApart
        (agrees.unnamed name optional needed) fun part member unfixed => ?_)
      exact (filler part (agrees.among part member unfixed)).nameless name optional needed
  · exact isDeclared_fill quiet agrees.signsApart (agrees.isDeclared declared listed)
  · exact isUsedWhereAssigned_fill quiet agrees.signsApart (agrees.isFollowed name listed)

/-! ## The templates -/

/-- The optional classes, each with the variable that it depends on. -/
abbrev ClassTable := List (String × String)

/-- Whether a class is wanted if some questions are agreed to. -/
def wantedBy (classes : ClassTable) (agreed : List Question) (name : String) : Bool :=
  classes.any fun entry => entry.1 == name && agreed.contains (entry.2, none)

def observedClasses : ClassTable :=
  [("LoggerInterface", "logging"), ("TracerInterface", "tracing")]

def handlerClasses : ClassTable :=
  ("StatusCode", "tracing") :: observedClasses

def controllerClasses : ClassTable :=
  observedClasses ++ [("Authorize", "auth"), ("AuthenticationService", "auth")]

def observedQuestions : List Question :=
  [("logging", none), ("tracing", none)]

def handlerQuestions : List Question :=
  observedQuestions ++ [("releaseEntity", none), ("request_kind", some "query")]

def controllerQuestions : List Question :=
  observedQuestions ++ [("auth", none)]

/-- The kind of a request is known once it is known whether it is a query. -/
def kindBy (agreed : List Question) (name : String) : Option (List Char) :=
  if name = "request_kind" then
    some (if agreed.contains ("request_kind", some "query") then "query".toList
      else "command".toList)
  else none

def requestGaps : List Part :=
  [.value "namespace", .value "name"]

def handlerGaps : List Part :=
  [.value "namespace", .imports "handler_imports", .value "name"]

def controllerGaps : List Part :=
  [.imports "imports", .value "area_name", .value "route_name", .value "name", .value "short_name",
    .value "module"]

def listenerGaps : List Part :=
  [.imports "imports", .value "name", .value "short_name", .value "event"]

def jobGaps : List Part :=
  [.value "queue", .value "tries", .value "timeout", .value "name", .value "short_name"]

theorem agreesBy_request : ∀ template ∈ [command, query],
    AgreesBy ["name"] requestGaps (fun _ => false) (parts (List.contains []) template) := by
  decide +kernel

theorem agreesBy_handler : ∀ agreed ∈ handlerQuestions.sublists,
    AgreesBy ["name"] handlerGaps (wantedBy handlerClasses agreed)
      ((parts (agreed.contains ·) handler).map (Part.bind (kindBy agreed))) := by
  decide +kernel

theorem agreesBy_controller : ∀ agreed ∈ controllerQuestions.sublists,
    AgreesBy ["name", "short_name", "module"] controllerGaps (wantedBy controllerClasses agreed)
      (parts (agreed.contains ·) controller) := by
  decide +kernel

theorem agreesBy_listener : ∀ agreed ∈ observedQuestions.sublists,
    AgreesBy ["name", "short_name", "event"] listenerGaps (wantedBy observedClasses agreed)
      (parts (agreed.contains ·) listener) := by
  decide +kernel

theorem agreesBy_job : ∀ agreed ∈ observedQuestions.sublists,
    AgreesBy ["name", "short_name"] jobGaps (wantedBy observedClasses agreed)
      (parts (agreed.contains ·) job) := by
  decide +kernel

end Scaffold.Template
