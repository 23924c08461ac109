import Scaffold.Composition.Import
import Scaffold.Proofs.Text.Lines
import Scaffold.Proofs.Text.Search

/-!
# The import lines of a text

The shape of an import line, and the import lines of a text with the positions at which they begin.
The imports of the text and the place after the last one are read off these.
-/

set_option autoImplicit false

namespace Scaffold.Composition

open Text

/-! ## Names of classes -/

/-- Whether a text can be the name of a class in its namespace. -/
def IsName (name : List Char) : Prop :=
  name ≠ [] ∧ ∀ character ∈ name, isWord character = true

/-- Whether a text can be the name of a class with its namespaces. -/
def IsClassName (className : List Char) : Prop :=
  className ≠ [] ∧ ∀ character ∈ className, isWord character = true ∨ character = '\\'

-- The characters of a name are decided one by one, never all characters that there are.
instance (name : List Char) : Decidable (IsName name) :=
  decidable_of_iff (name ≠ [] ∧ name.all isWord = true) (by simp [IsName])

instance (className : List Char) : Decidable (IsClassName className) :=
  decidable_of_iff
    (className ≠ [] ∧ className.all (fun character => isWord character || character == '\\') = true)
    (by simp [IsClassName])

theorem IsName.not_mem {name : List Char} (named : IsName name) {character : Char}
    (other : isWord character = false) : character ∉ name := by
  intro member
  rw [named.2 character member] at other
  cases other

theorem IsName.return_not_mem {name : List Char} (named : IsName name) : '\r' ∉ name :=
  named.not_mem (by decide)

theorem IsName.inked {name : List Char} (named : IsName name) :
    ∀ character ∈ name, isBlank character = false :=
  fun character member => not_isBlank_of_isWord (named.2 character member)

theorem IsClassName.not_mem {className : List Char} (named : IsClassName className)
    {character : Char} (other : isWord character = false) (different : character ≠ '\\') :
    character ∉ className := by
  intro member
  rcases named.2 character member with word | backslash
  · rw [word] at other
    cases other
  · exact different backslash

theorem IsClassName.return_not_mem {className : List Char} (named : IsClassName className) :
    '\r' ∉ className :=
  named.not_mem (by decide) (by decide)

theorem IsClassName.inked {className : List Char} (named : IsClassName className) :
    ∀ character ∈ className, isBlank character = false := by
  intro character member
  rcases named.2 character member with word | rfl
  · exact not_isBlank_of_isWord word
  · decide

/-! ## The shape of an import line -/

def importMark : List Char :=
  ['u', 's', 'e']

/-- An import line with the blanks after its first word, the name that it imports, and what follows
the semicolon. -/
structure IsImport (line gap name ending : List Char) : Prop where
  line_eq : line = importMark ++ gap ++ name ++ ';' :: ending
  gap_ne_nil : gap ≠ []
  gap_blank : isAllBlank gap = true
  named : ∃ first rest, name = first :: rest ∧ isBlank first = false
  unended : ';' ∉ name
  ending_plain : ∀ character ∈ ending, character = ' ' ∨ character = '\t'

private theorem dropWhile_append_semicolon {name : List Char} (unended : ';' ∉ name)
    (ending : List Char) :
    (name ++ ';' :: ending).dropWhile (· ≠ ';') = ';' :: ending := by
  induction name with
  | nil => simp
  | cons first name ih =>
    obtain ⟨different, below⟩ := not_or.1 (List.mem_cons.not.1 unended)
    simpa [List.dropWhile_cons, Ne.symm different] using ih below

private theorem isNamed_iff {text : List Char} :
    isNamed text = true ↔
      ∃ name ending, text = name ++ ';' :: ending ∧
        (∃ first rest, name = first :: rest ∧ isBlank first = false) ∧ ';' ∉ name ∧
        ∀ character ∈ ending, character = ' ' ∨ character = '\t' := by
  constructor
  · intro found
    cases text with
    | nil => simp [isNamed] at found
    | cons first rest =>
      rw [isNamed, Bool.and_eq_true, Bool.and_eq_true, bne_iff_ne, Bool.not_eq_true'] at found
      obtain ⟨⟨notEnd, inked⟩, closed⟩ := found
      have parted := List.takeWhile_append_dropWhile (p := (· ≠ ';')) (l := rest)
      cases dropped : rest.dropWhile (· ≠ ';') with
      | nil => rw [dropped] at closed; cases closed
      | cons semicolon ending =>
        have stopped := List.head?_dropWhile_not (· ≠ ';') rest
        rw [dropped] at stopped
        obtain rfl : semicolon = ';' := by simpa using stopped
        refine ⟨first :: rest.takeWhile (· ≠ ';'), ending, ?_, ⟨first, _, rfl, inked⟩, ?_, ?_⟩
        · rw [List.cons_append, ← dropped, parted]
        · rw [List.mem_cons, not_or]
          refine ⟨fun equal => notEnd equal.symm, fun member => ?_⟩
          simpa using List.mem_takeWhile_imp member
        · rw [dropped] at closed
          simpa using closed
  · rintro ⟨name, ending, rfl, ⟨first, rest, rfl, inked⟩, unended, plain⟩
    obtain ⟨notEnd, below⟩ := not_or.1 (List.mem_cons.not.1 unended)
    simp only [List.cons_append, isNamed, dropWhile_append_semicolon below]
    simpa [inked, Ne.symm notEnd] using plain

theorem isImportLine_iff {line : List Char} :
    isImportLine line = true ↔ ∃ gap name ending, IsImport line gap name ending := by
  constructor
  · intro found
    unfold isImportLine at found
    cases begun : after? ['u', 's', 'e'] line with
    | none => simp [begun] at found
    | some rest =>
      simp only [begun, Bool.and_eq_true, Bool.not_eq_true', List.isEmpty_eq_false_iff] at found
      obtain ⟨name, ending, split, named, unended, plain⟩ := isNamed_iff.1 found.2
      refine ⟨indentation rest, name, ending, ?_, found.1, isAllBlank_indentation rest, named,
        unended, plain⟩
      rw [List.append_assoc, ← split, List.append_assoc, indentation_append_trimLeft]
      exact after?_eq_some_iff.1 begun
  · rintro ⟨gap, name, ending, shape⟩
    obtain ⟨first, rest, rfl, inked⟩ := shape.named
    have begun : after? ['u', 's', 'e'] line = some (gap ++ first :: (rest ++ ';' :: ending)) := by
      rw [after?_eq_some_iff, shape.line_eq]
      simp [importMark]
    have named : isNamed (first :: (rest ++ ';' :: ending)) = true :=
      isNamed_iff.2 ⟨first :: rest, ending, rfl, shape.named, shape.unended, shape.ending_plain⟩
    rw [isImportLine, begun]
    simp only [indentation_append shape.gap_blank inked, trimLeft_append shape.gap_blank,
      trimLeft_cons inked, named, Bool.and_true]
    simpa using shape.gap_ne_nil

theorem IsImport.trimRight_eq {line gap name ending : List Char}
    (shape : IsImport line gap name ending) :
    trimRight line = importMark ++ gap ++ name ++ [';'] := by
  have blank : isAllBlank ending = true := isAllBlank_iff.2 fun character member => by
    rcases shape.ending_plain character member with rfl | rfl <;> decide
  rw [shape.line_eq, trimRight_append_cons (by decide), trimRight_eq_nil_iff.2 blank]

theorem head?_of_isImportLine {line : List Char} (found : isImportLine line = true) :
    line.head? = some 'u' := by
  obtain ⟨gap, name, ending, shape⟩ := isImportLine_iff.1 found
  rw [shape.line_eq]
  rfl

theorem getLast?_of_isImportLine {line : List Char} (found : isImportLine line = true)
    {last : Char} (ends : line.getLast? = some last) :
    last = ';' ∨ last = ' ' ∨ last = '\t' := by
  obtain ⟨gap, name, ending, shape⟩ := isImportLine_iff.1 found
  rw [shape.line_eq, List.getLast?_append, List.getLast?_cons] at ends
  cases lastEnding : ending.getLast? with
  | none =>
    rw [lastEnding] at ends
    exact .inl (by simpa using ends.symm)
  | some character =>
    rw [lastEnding] at ends
    obtain rfl : character = last := by simpa using ends
    exact .inr (shape.ending_plain character (List.mem_of_getLast? lastEnding))

theorem isImportLine_importLine {className : List Char} (named : IsClassName className) :
    isImportLine (importLine className) = true := by
  refine isImportLine_iff.2 ⟨[' '], className, [], ?_, by simp, by decide, ?_, ?_, by simp⟩
  · simp [importLine, importMark]
  · cases className with
    | nil => exact absurd rfl named.1
    | cons first rest => exact ⟨first, rest, rfl, named.inked first List.mem_cons_self⟩
  · exact named.not_mem (by decide) (by decide)

/-! ## Entries put into a line -/

private theorem comma_not_mem_mark_append {gap : List Char} (blank : isAllBlank gap = true) :
    ',' ∉ importMark ++ gap := by
  rw [List.mem_append, not_or]
  refine ⟨by decide, fun member => ?_⟩
  have inked : isBlank ',' = false := by decide
  rw [isAllBlank_iff.1 blank ',' member] at inked
  cases inked

private theorem getLast?_mark_append {gap : List Char} (filled : gap ≠ [])
    (blank : isAllBlank gap = true) {last : Char}
    (ends : (importMark ++ gap).getLast? = some last) : isBlank last = true := by
  rw [List.getLast?_append] at ends
  cases lastBlank : gap.getLast? with
  | none => exact absurd (List.getLast?_eq_none_iff.1 lastBlank) filled
  | some character =>
    obtain rfl : character = last := by simpa [lastBlank] using ends
    exact isAllBlank_iff.1 blank character (List.mem_of_getLast? lastBlank)

/-- The keyword and its blanks end before an entry that is put into a line after a character that is
not blank, since no comma is in them. -/
private theorem exists_of_mark_append {front added upper gap name : List Char} {last : Char}
    (ends : front.getLast? = some last) (inked : isBlank last = false)
    (parted : last = ',' ∨ added.head? = some ',') (gapFilled : gap ≠ [])
    (gapBlank : isAllBlank gap = true)
    (split : front ++ (added ++ upper) = importMark ++ gap ++ name) :
    ∃ rest, rest ≠ [] ∧ front = importMark ++ gap ++ rest ∧ name = rest ++ (added ++ upper) := by
  have inMark : front ≠ importMark ++ gap := by
    rintro rfl
    rw [getLast?_mark_append gapFilled gapBlank ends] at inked
    cases inked
  have noComma := comma_not_mem_mark_append gapBlank
  rcases List.append_eq_append_iff.1 split with ⟨rest, mark_eq, added_eq⟩ | ⟨rest, front_eq, name_eq⟩
  · exfalso
    rw [mark_eq] at noComma
    rcases parted with rfl | begins
    · exact noComma (List.mem_append_left _ (List.mem_of_getLast? ends))
    · obtain ⟨others, rfl⟩ := List.head?_eq_some_iff.1 begins
      cases rest with
      | nil => exact inMark (by rw [mark_eq, List.append_nil])
      | cons first rest =>
        obtain rfl : ',' = first := (List.cons.inj added_eq).1
        exact noComma (List.mem_append_right _ List.mem_cons_self)
  · refine ⟨rest, ?_, front_eq, name_eq⟩
    rintro rfl
    exact inMark (by rw [front_eq, List.append_nil])

/-- An entry put into a line after a character that is not blank does not make it import. -/
theorem isImportLine_of_insert {front added back : List Char} {last : Char}
    (ends : front.getLast? = some last) (inked : isBlank last = false)
    (parted : last = ',' ∨ added.head? = some ',') (goesOn : ';' ∉ added)
    (filled : isAllBlank added = false)
    (found : isImportLine (front ++ added ++ back) = true) :
    isImportLine (front ++ back) = true := by
  obtain ⟨gap, name, ending, shape⟩ := isImportLine_iff.1 found
  have line_eq := shape.line_eq
  have headUnended : ';' ∉ importMark ++ gap ++ name := by
    have gapUnended : ';' ∉ gap := fun member => by
      have blank := isAllBlank_iff.1 shape.gap_blank ';' member
      exact absurd blank (by decide)
    simp [importMark, gapUnended, shape.unended]
  by_cases early : ';' ∈ front
  · -- The entry would stand after the semicolon, where only spaces and tabs may be.
    obtain ⟨upper, lower, rfl, absent⟩ := List.eq_append_cons_of_mem early
    have split : upper ++ ';' :: (lower ++ added ++ back) =
        importMark ++ gap ++ name ++ ';' :: ending := by
      rw [← line_eq]
      simp
    obtain ⟨-, rfl⟩ := append_cons_inj_of_not_mem absent headUnended split
    have blank : isAllBlank added = true := isAllBlank_iff.2 fun character member => by
      rcases shape.ending_plain character (by simp [member]) with rfl | rfl <;> decide
    rw [blank] at filled
    cases filled
  · have late : ';' ∈ back := by
      have member : ';' ∈ front ++ added ++ back := by rw [line_eq]; simp
      simpa [early, goesOn] using member
    obtain ⟨upper, lower, rfl, absent⟩ := List.eq_append_cons_of_mem late
    have split : (front ++ (added ++ upper)) ++ ';' :: lower =
        importMark ++ gap ++ name ++ ';' :: ending := by
      rw [← line_eq]
      simp
    obtain ⟨head_eq, rfl⟩ :=
      append_cons_inj_of_not_mem (by simp [early, goesOn, absent]) headUnended split
    obtain ⟨rest, restFilled, front_eq, rfl⟩ :=
      exists_of_mark_append ends inked parted shape.gap_ne_nil shape.gap_blank head_eq
    obtain ⟨first, others, begins, firstInked⟩ := shape.named
    obtain ⟨second, rest, rfl⟩ := List.exists_cons_of_ne_nil restFilled
    obtain rfl : second = first := (List.cons.inj begins).1
    refine isImportLine_iff.2 ⟨gap, second :: (rest ++ upper), lower, ?_, shape.gap_ne_nil,
      shape.gap_blank, ⟨second, _, rfl, firstInked⟩, ?_, shape.ending_plain⟩
    · rw [front_eq]
      simp
    · have unended := shape.unended
      simp only [List.cons_append, List.mem_cons, List.mem_append, not_or] at unended ⊢
      exact ⟨unended.1, unended.2.1, absent⟩

/-! ## Import lines and their places -/

/-- A line with the position at which it begins. -/
structure Placed where
  start : Nat
  line : Line

namespace Placed

def finish (placed : Placed) : Nat :=
  placed.start + placed.line.toList.length

def later (distance : Nat) (placed : Placed) : Placed :=
  ⟨distance + placed.start, placed.line⟩

@[simp] theorem later_line (distance : Nat) (placed : Placed) :
    (placed.later distance).line = placed.line := rfl

@[simp] theorem later_start (distance : Nat) (placed : Placed) :
    (placed.later distance).start = distance + placed.start := rfl

@[simp] theorem later_finish (distance : Nat) (placed : Placed) :
    (placed.later distance).finish = distance + placed.finish :=
  Nat.add_assoc _ _ _

/-- Whether a return or a feed ends the line, or both, or nothing. -/
def endsPlainly (placed : Placed) : Bool :=
  placed.line.ending.all fun character => character == '\r' || character == '\n'

end Placed

/-- The import lines among the lines from a position on. -/
def placedFrom (start : Nat) : List Line → List Placed
  | [] => []
  | line :: lines =>
    let below := placedFrom (start + line.toList.length) lines
    if isImportLine line.body then ⟨start, line⟩ :: below else below

def placedImports (text : List Char) : List Placed :=
  placedFrom 0 (lines text)

theorem placedFrom_append (start : Nat) (above below : List Line) :
    placedFrom start (above ++ below) =
      placedFrom start above ++ placedFrom (start + (joinLines above).length) below := by
  induction above generalizing start with
  | nil => simp [placedFrom]
  | cons line above ih =>
    by_cases imports : isImportLine line.body = true <;>
      simp [placedFrom, imports, ih, Nat.add_assoc]

theorem placedFrom_add (distance start : Nat) (pieces : List Line) :
    placedFrom (distance + start) pieces = (placedFrom start pieces).map (Placed.later distance) := by
  induction pieces generalizing start with
  | nil => rfl
  | cons line lines ih =>
    by_cases imports : isImportLine line.body = true <;>
      simp [placedFrom, imports, ← ih, Nat.add_assoc, Placed.later]

theorem placedFrom_eq_nil {pieces : List Line}
    (none : ∀ line ∈ pieces, isImportLine line.body = false) (start : Nat) :
    placedFrom start pieces = [] := by
  induction pieces generalizing start with
  | nil => rfl
  | cons line lines ih =>
    simp only [placedFrom, none line List.mem_cons_self]
    exact ih (fun other member => none other (List.mem_cons_of_mem _ member)) _

theorem placedFrom_bounds {start : Nat} {pieces : List Line} {placed : Placed}
    (member : placed ∈ placedFrom start pieces) :
    start ≤ placed.start ∧ placed.finish ≤ start + (joinLines pieces).length := by
  induction pieces generalizing start with
  | nil => cases member
  | cons line lines ih =>
    have below (found : placed ∈ placedFrom (start + line.toList.length) lines) :
        start ≤ placed.start ∧ placed.finish ≤ start + (joinLines (line :: lines)).length := by
      obtain ⟨after, before⟩ := ih found
      rw [joinLines_cons, List.length_append]
      omega
    by_cases imports : isImportLine line.body = true
    · simp only [placedFrom, imports, if_true, List.mem_cons] at member
      rcases member with rfl | member
      · simp [Placed.finish]
      · exact below member
    · simp only [placedFrom, imports] at member
      exact below member

theorem imports_eq (text : List Char) :
    imports text = (placedImports text).map fun placed => trimRight placed.line.body := by
  have general (start : Nat) (pieces : List Line) :
      ((pieces.map Line.body).filter isImportLine).map trimRight =
        (placedFrom start pieces).map fun placed => trimRight placed.line.body := by
    induction pieces generalizing start with
    | nil => rfl
    | cons line lines ih =>
      by_cases imports : isImportLine line.body = true <;>
        simp [placedFrom, imports, ih (start + line.toList.length)]
  exact general 0 (lines text)

/-- Where the last of the import lines ends after which nothing but returns and feeds stand. -/
def lastFinish? (placed : List Placed) : Option Nat :=
  (placed.reverse.find? Placed.endsPlainly).map Placed.finish

theorem lastFinish?_append (above below : List Placed) :
    lastFinish? (above ++ below) = (lastFinish? below).or (lastFinish? above) := by
  simp only [lastFinish?, List.reverse_append, List.find?_append]
  cases below.reverse.find? Placed.endsPlainly <;> rfl

theorem lastFinish?_later (distance : Nat) (placed : List Placed) :
    lastFinish? (placed.map (Placed.later distance)) =
      (lastFinish? placed).map (distance + ·) := by
  have same : Placed.endsPlainly ∘ Placed.later distance = Placed.endsPlainly := rfl
  simp only [lastFinish?, ← List.map_reverse, List.find?_map, same, Option.map_map]
  congr 1
  funext placed
  exact Placed.later_finish distance placed

private theorem isLineEnd_of_mem_ending {pieces : List Line} (areLines : AreLines pieces) :
    ∀ line ∈ pieces, ∀ character ∈ line.ending, isLineEnd character = true := by
  induction areLines with
  | nil => simp
  | last => simp
  | cons _ ends _ ih =>
    intro line member
    rcases List.mem_cons.1 member with rfl | member
    · cases ends with
      | returnFeed => simp [isLineEnd]
      | single isEnd => simpa using isEnd
    · exact ih line member

/-- A line that another line end than a return or a feed follows is not the last import line. -/
private theorem endsImport_eq {line : Line}
    (ends : ∀ character ∈ line.ending, isLineEnd character = true) (start : Nat) :
    endsImport line = (isImportLine line.body && Placed.endsPlainly ⟨start, line⟩) := by
  unfold endsImport Placed.endsPlainly
  cases plain : line.ending.all fun character => character == '\r' || character == '\n' with
  | true => simp
  | false =>
    simp only [Bool.false_eq_true, if_false, Bool.and_false]
    refine Bool.eq_false_iff.2 fun found => ?_
    cases last : line.ending.getLast? with
    | none => simp [List.getLast?_eq_none_iff.1 last] at plain
    | some character =>
      have isEnd := ends character (List.mem_of_getLast? last)
      have lineLast : line.toList.getLast? = some character := by
        rw [Line.toList, List.getLast?_append, last, Option.some_or]
      rcases getLast?_of_isImportLine found lineLast with rfl | rfl | rfl <;>
        exact absurd isEnd (by decide)

private theorem importsEndFrom_eq {pieces : List Line}
    (ends : ∀ line ∈ pieces, ∀ character ∈ line.ending, isLineEnd character = true)
    (start : Nat) : importsEndFrom start pieces = lastFinish? (placedFrom start pieces) := by
  induction pieces generalizing start with
  | nil => rfl
  | cons line lines ih =>
    have below := ih (fun other member => ends other (List.mem_cons_of_mem _ member))
      (start + line.toList.length)
    have here := endsImport_eq (ends line List.mem_cons_self) start
    have single (other : List Placed) (placed : Placed) :
        lastFinish? (placed :: other) = (lastFinish? other).or (lastFinish? [placed]) :=
      lastFinish?_append [placed] other
    rw [importsEndFrom, below, here]
    by_cases imports : isImportLine line.body = true
    · simp only [placedFrom, imports, if_true, Bool.true_and]
      rw [single]
      cases lastFinish? (placedFrom (start + line.toList.length) lines) with
      | some later => rfl
      | none =>
        cases plain : Placed.endsPlainly ⟨start, line⟩ <;>
          simp [lastFinish?, plain, Placed.finish]
    · simp only [placedFrom, imports, Bool.false_and, Bool.false_eq_true, if_false]
      cases lastFinish? (placedFrom (start + line.toList.length) lines) <;> rfl

theorem importsEnd?_eq (text : List Char) :
    importsEnd? text = lastFinish? (placedImports text) :=
  importsEndFrom_eq (isLineEnd_of_mem_ending (areLines_lines text)) 0

end Scaffold.Composition
