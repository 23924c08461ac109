import Scaffold.Proofs.Template.Usage

/-!
# What source texts make instances of

Which lines of a source text make instances is seen in its fixed parts: the values that are filled in
open no brackets and have no blanks. The other lines import nothing but for a list of imports, so that
a class is imported as often as it is in the list.
-/

set_option autoImplicit false

namespace Scaffold.Template

open Source Text

section Parts

variable {plain : String → Bool} {values lists : String → List Char}
  {line parts : List Part} {block : Part} {makers : List (List Part)} {names : List String}

/-! ## Lines -/

/-- Whether a line begins with no import. -/
def importsNothing (line : List Part) : Bool :=
  match line with
  | [] => true
  | .fixed (first :: _) :: _ => first != 'u'
  | _ => false

theorem importedClass?_fill (silent : importsNothing line = true) :
    importedClass? (fill values lists line) = none := by
  refine importedClass?_eq_none fun begun => ?_
  unfold importsNothing at silent
  split at silent
  · exact absurd (List.prefix_nil.1 begun) (by decide)
  · obtain ⟨same, -⟩ := List.cons_prefix_cons.1 begun
    rw [← same] at silent
    cases silent
  · cases silent

def makingTable : MarkTable Unit :=
  [("new ".toList, ())]

/-- Whether it is seen in the fixed parts of a line that no instance is made there. -/
def isUnmade (plain : String → Bool) (line : List Part) : Bool :=
  !(bare line).contains '(' ||
    areApart makingTable plain line && (line.flatMap (Part.fixedMarks makingTable)).isEmpty

/-- Whether the values of a line neither end it nor make instances in it. -/
structure IsTight (plain : String → Bool) (values lists : String → List Char) (line : List Part) :
    Prop where
  words : ∀ name, plain name = true → ∀ character ∈ values name, isWord character
  clean : ∀ part ∈ line, part.isFixed = false →
    ∀ mark ∈ ['\n', '(', ' '], mark ∉ part.text values lists

theorem madeClasses_fill (unmade : isUnmade plain line = true)
    (tight : IsTight plain values lists line) : madeClasses (fill values lists line) = [] := by
  have filled : ∀ entry ∈ makingTable, entry.1 ≠ [] := by decide
  rcases Bool.or_eq_true_iff.1 unmade with unopened | unmarked
  · refine madeClasses_eq_nil_of_unopened (not_mem_fill ?_ fun part among unfixed =>
      tight.clean part among unfixed '(' (by decide))
    intro member
    rw [List.contains_iff_mem.2 member] at unopened
    cases unopened
  · obtain ⟨apart, unfixed⟩ := Bool.and_eq_true_iff.1 unmarked
    refine madeClasses_eq_nil_of_unmade fun stands => ?_
    have listed : ("new ".toList, ()) ∈ makingTable := List.mem_singleton_self _
    obtain ⟨_, _, _, marked⟩ := exists_mark_of_isInfix listed (filled _ listed) stands
    rw [marks_fill tight.words apart] at marked
    obtain ⟨part, among, marked⟩ := List.mem_flatMap.1 marked
    cases part with
    | fixed text =>
      rw [← codedMarks_eq filled] at marked
      have listed : () ∈ line.flatMap (Part.fixedMarks makingTable) :=
        List.mem_flatMap.2 ⟨_, among, marked⟩
      rw [List.isEmpty_iff.1 unfixed] at listed
      cases listed
    | value name | imports name =>
      obtain ⟨entry, member, -, inside⟩ := exists_isInfix_of_mem_marks marked
      rw [List.mem_singleton.1 member] at inside
      exact tight.clean _ among rfl ' ' (by decide) (inside.subset (by decide))

/-! ## Lists of imports -/

/-- The class that an import is of. -/
def lastSegment (name : String) : List Char :=
  name.toList.rtakeWhile (· ≠ '\\')

theorem importedClass?_importLine (name : String) :
    importedClass? (importLine name).toList = some (lastSegment name) := by
  have line_eq : (importLine name).toList = "use ".toList ++ (name.toList ++ [';']) := by
    rw [importLine, String.toList_append, String.toList_append, List.append_assoc]
    rfl
  unfold importedClass?
  rw [line_eq, after?_eq_some_iff.2 rfl]
  simp only [List.getLast?_append, List.getLast?_singleton, Option.some_or, if_true,
    List.dropLast_concat]
  rfl

theorem importedClasses_importBlock (filled : names ≠ [])
    (whole : ∀ name ∈ names, '\n' ∉ name.toList) :
    importedClasses (importBlock names) = names.map lastSegment := by
  rw [importedClasses, splitOn_importBlock filled whole, List.filterMap_map,
    ← List.filterMap_eq_map]
  exact List.filterMap_congr fun name _ => importedClass?_importLine name

/-! ## All lines -/

/-- Whether the parts of a source text have one list of imports, in a line of its own, no other import,
and make instances in some lines only. No other values are filled in than those of the gaps. -/
structure MakesBy (plain : List String) (gaps : List Part) (block : Part)
    (makers : List (List Part)) (parts : List Part) : Prop where
  once : (sheet parts).count [block] = 1
  among : ∀ line ∈ sheet parts, line ≠ [block] → ∀ part ∈ line, part.isFixed = false → part ∈ gaps
  whole : ∀ line ∈ sheet parts, '\n' ∉ bare line
  silent : ∀ line ∈ sheet parts, line ≠ [block] → importsNothing line = true
  made : ∀ line ∈ sheet parts, line ≠ [block] →
    line ∈ makers ∨ isUnmade (plain.contains ·) line = true

instance (plain : List String) (gaps : List Part) (block : Part) (makers : List (List Part))
    (parts : List Part) : Decidable (MakesBy plain gaps block makers parts) :=
  decidable_of_iff
    ((sheet parts).count [block] = 1 ∧
      (∀ line ∈ sheet parts, line ≠ [block] →
        ∀ part ∈ line, part.isFixed = false → part ∈ gaps) ∧
      (∀ line ∈ sheet parts, '\n' ∉ bare line) ∧
      (∀ line ∈ sheet parts, line ≠ [block] → importsNothing line = true) ∧
      ∀ line ∈ sheet parts, line ≠ [block] →
        makers.contains line = true ∨ isUnmade (plain.contains ·) line = true)
    (by simp only [List.contains_iff_mem]
        exact ⟨fun ⟨once, among, whole, silent, made⟩ => ⟨once, among, whole, silent, made⟩,
          fun makes => ⟨makes.once, makes.among, makes.whole, makes.silent, makes.made⟩⟩)

/-- Whether a list of imports is that of some names, and the values of gaps neither end lines nor make
instances. -/
structure FillsTightly (values lists : String → List Char) (plain : List String) (gaps : List Part)
    (block : Part) (names : List String) : Prop where
  block_eq : block.text values lists = importBlock names
  filled : names ≠ []
  closed : ∀ name ∈ names, ∀ mark ∈ ['\n', '('], mark ∉ name.toList
  words : ∀ name ∈ plain, ∀ character ∈ values name, isWord character
  clean : ∀ gap ∈ gaps, ∀ mark ∈ ['\n', '(', ' '], mark ∉ gap.text values lists

theorem flatMap_of_count_eq_one {α β : Type} [BEq α] [LawfulBEq α] {f : α → List β} {entries : List α}
    {entry : α} (once : entries.count entry = 1)
    (others : ∀ other ∈ entries, other ≠ entry → f other = []) : entries.flatMap f = f entry := by
  obtain ⟨before, after, rfl⟩ := List.append_of_mem (List.count_pos_iff.1 (once ▸ Nat.one_pos))
  rw [List.count_append, List.count_cons_self] at once
  have noneBefore : entry ∉ before := List.count_eq_zero.1 (by omega)
  have noneAfter : entry ∉ after := List.count_eq_zero.1 (by omega)
  have nothingBefore : before.flatMap f = [] := by
    refine List.flatMap_eq_nil_iff.2 fun other member => ?_
    refine others other (List.mem_append_left _ member) ?_
    exact ne_of_mem_of_not_mem member noneBefore
  have nothingAfter : after.flatMap f = [] := by
    refine List.flatMap_eq_nil_iff.2 fun other member => ?_
    refine others other (List.mem_append_right _ (List.mem_cons_of_mem entry member)) ?_
    exact ne_of_mem_of_not_mem member noneAfter
  rw [List.flatMap_append, List.flatMap_cons, nothingBefore, nothingAfter, List.append_nil,
    List.nil_append]

section All

variable {plain : List String} {gaps : List Part}
  (makes : MakesBy plain gaps block makers parts)
  (fills : FillsTightly values lists plain gaps block names)

include makes fills

theorem isTight_line (listed : line ∈ sheet parts) (other : line ≠ [block]) :
    IsTight (plain.contains ·) values lists line where
  words name isPlain := fills.words name (List.contains_iff_mem.1 isPlain)
  clean part among unfixed := fills.clean part (makes.among line listed other part among unfixed)

theorem splitOn_line (listed : line ∈ sheet parts) (other : line ≠ [block]) :
    (fill values lists line).splitOn '\n' = [fill values lists line] := by
  have tight := isTight_line makes fills listed other
  exact splitOn_of_not_mem (not_mem_fill (makes.whole line listed) fun part among unfixed =>
    tight.clean part among unfixed '\n' List.mem_cons_self)

omit makes in
theorem fill_block : fill values lists [block] = importBlock names := by
  rw [← fills.block_eq]
  exact List.append_nil _

/-- What is imported is what the list of imports has in it. -/
theorem importedClasses_fill :
    importedClasses (fill values lists parts) = names.map lastSegment := by
  have lines_eq : importedClasses (fill values lists parts) =
      (sheet parts).flatMap fun line => importedClasses (fill values lists line) := by
    rw [importedClasses, splitOn_fill, List.filterMap_flatMap]
    rfl
  have whole : ∀ name ∈ names, '\n' ∉ name.toList := fun name member =>
    fills.closed name member '\n' List.mem_cons_self
  rw [lines_eq, flatMap_of_count_eq_one makes.once fun line listed other => ?_, fill_block fills,
    importedClasses_importBlock fills.filled whole]
  rw [importedClasses, splitOn_line makes fills listed other, List.filterMap_cons_none
    (importedClass?_fill (makes.silent line listed other)), List.filterMap_nil]

/-- Each class is imported once if it is once in the list of imports for each line that makes instances
of it. -/
theorem importsWhatItMakes_fill
    (once : ∀ line ∈ makers, ∀ made ∈ madeClasses (fill values lists line),
      (names.map lastSegment).count made = 1) :
    ImportsWhatItMakes (fill values lists parts) := by
  intro text among made member
  rw [importedClasses_fill makes fills]
  rw [splitOn_fill] at among
  obtain ⟨line, listed, among⟩ := List.mem_flatMap.1 among
  by_cases same : line = [block]
  · rw [same, fill_block fills, splitOn_importBlock fills.filled fun name inside =>
      fills.closed name inside '\n' List.mem_cons_self] at among
    obtain ⟨name, inside, rfl⟩ := List.mem_map.1 among
    have unopened : '(' ∉ (importLine name).toList :=
      not_mem_importLine (fills.closed name inside '(' (by decide)) (by decide)
    rw [madeClasses_eq_nil_of_unopened unopened] at member
    cases member
  · rw [splitOn_line makes fills listed same, List.mem_singleton] at among
    subst among
    rcases makes.made line listed same with maker | unmade
    · exact once line maker made member
    · rw [madeClasses_fill unmade (isTight_line makes fills listed same)] at member
      cases member

end All

end Parts

/-! ## The template of a controller -/

/-- A request that a controller sends: the variable for it, the namespace of its class, and what that
is called before and after the short name. -/
structure Sending where
  holder : String
  folder : String
  verb : String
  plural : String
  deriving DecidableEq

def sendings : List Sending :=
  [⟨"query", "Queries", "Get", "s"⟩, ⟨"query", "Queries", "Get", ""⟩,
    ⟨"command", "Commands", "Create", ""⟩, ⟨"command", "Commands", "Update", ""⟩,
    ⟨"command", "Commands", "Delete", ""⟩]

namespace Sending

variable {sending other : Sending} {values lists : String → List Char} {shortName made : List Char}

/-- The class of a request. -/
def className (sending : Sending) (shortName : List Char) : List Char :=
  sending.verb.toList ++ (shortName ++ sending.plural.toList)

/-- What comes before the class of a request where an instance of it is made. -/
def assignment (sending : Sending) : List Char :=
  "        $".toList ++ sending.holder.toList ++ " = new".toList

/-- The line that makes an instance of the class of a request. -/
def line (sending : Sending) : List Part :=
  [.fixed (sending.assignment ++ ' ' :: sending.verb.toList), .value "short_name",
    .fixed (sending.plural.toList ++ "();".toList)]

theorem words_className (listed : sending ∈ sendings)
    (words : ∀ character ∈ shortName, isWord character) :
    ∀ character ∈ sending.className shortName, isWord character := by
  have fixed : ∀ sending ∈ sendings, sending.verb.toList.all isWord = true ∧
      sending.plural.toList.all isWord = true := by
    decide
  obtain ⟨verb, plural⟩ := fixed sending listed
  exact List.forall_mem_append.2 ⟨List.all_eq_true.1 verb,
    List.forall_mem_append.2 ⟨words, List.all_eq_true.1 plural⟩⟩

/-- A line for a request makes an instance of no other class. -/
theorem eq_className_of_mem (listed : sending ∈ sendings)
    (words : ∀ character ∈ values "short_name", isWord character)
    (member : made ∈ madeClasses (fill values lists sending.line)) :
    made = sending.className (values "short_name") := by
  have unopened : ∀ sending ∈ sendings, '(' ∉ sending.assignment := by decide
  have line_eq : fill values lists sending.line =
      sending.assignment ++ ' ' :: (sending.className (values "short_name") ++ '(' :: ");".toList) := by
    simp [line, fill, Part.text, className]
  rw [line_eq] at member
  exact eq_of_mem_madeClasses (unopened sending listed) (words_className listed words) (by decide)
    member

/-- Different requests are of different classes. -/
theorem eq_of_className_eq (listed : sending ∈ sendings) (otherListed : other ∈ sendings)
    (same : sending.className shortName = other.className shortName) : sending = other := by
  have apart : ∀ sending ∈ sendings, ∀ other ∈ sendings,
      sending.verb.toList <+: other.verb.toList ∨ other.verb.toList <+: sending.verb.toList →
        sending.verb = other.verb := by
    decide
  have told : ∀ sending ∈ sendings, ∀ other ∈ sendings, sending.verb = other.verb →
      sending.plural = other.plural → sending = other := by
    decide
  have begun : sending.verb.toList <+: other.className shortName := ⟨_, same⟩
  have verb_eq : sending.verb = other.verb :=
    apart sending listed other otherListed
      (List.prefix_or_prefix_of_prefix begun (List.prefix_append _ _))
  rw [className, className, verb_eq] at same
  have plural_eq := List.append_cancel_left (List.append_cancel_left same)
  exact told sending listed other otherListed verb_eq (String.toList_inj.1 plural_eq)

/-- The parts of the import of the class of a request. -/
def importParts (sending : Sending) : List Part :=
  [.fixed "use Core\\Application\\Logics\\".toList, .value "short_name", .fixed "\\".toList,
    .value "short_name",
    .fixed ("\\".toList ++ (sending.folder.toList ++ ("\\".toList ++ sending.verb.toList))),
    .value "short_name", .fixed (sending.plural.toList ++ ";".toList)]

theorem isPath_importParts : ∀ sending ∈ sendings, IsPath sending.importParts := by
  decide

end Sending

theorem makesBy_controller : ∀ agreed ∈ controllerQuestions.sublists,
    MakesBy ["name", "short_name", "module"] (controllerGaps.filter (!·.isBlock)) (.imports "imports")
      (sendings.map Sending.line) (parts (agreed.contains ·) controller) := by
  decide +kernel

end Scaffold.Template
