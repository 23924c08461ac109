import Mathlib.Data.List.Sublists
import Scaffold.Proofs.Result
import Scaffold.Proofs.Template.Render
import Scaffold.Proofs.Text.Ascii
import Scaffold.Proofs.Text.Marks
import Scaffold.Text.Letters

/-!
# The parts of what is rendered

What a template writes depends on how the questions of its choices are answered. Once they are, it is a
sequence of fixed texts and of values that are filled in. There are few questions, so that what is to
hold of all parts can be checked for every way to answer them. The marks and the lines of what is
rendered are those of its parts, if no pattern goes over a seam between two of them.
-/

set_option autoImplicit false

namespace Scaffold

/-- What a choice asks of a context: whether a variable holds, or whether it is a certain text. -/
abbrev Question := String × Option String

namespace Condition

def questions : Condition → List Question
  | .holds name => [(name, none)]
  | .is name text => [(name, some text)]
  | .either first second => first.questions ++ second.questions
  | .both first second => first.questions ++ second.questions

/-- Whether a condition is met if questions are answered in some way. -/
def isMetBy (answer : Question → Bool) : Condition → Bool
  | .holds name => answer (name, none)
  | .is name text => answer (name, some text)
  | .either first second => first.isMetBy answer || second.isMetBy answer
  | .both first second => first.isMetBy answer && second.isMetBy answer

variable {condition : Condition} {answer other : Question → Bool}

theorem isMetBy_congr (same : ∀ question ∈ condition.questions, answer question = other question) :
    condition.isMetBy answer = condition.isMetBy other := by
  induction condition with
  | holds name => exact same _ (List.mem_singleton_self _)
  | is name text => exact same _ (List.mem_singleton_self _)
  | either first second ihFirst ihSecond | both first second ihFirst ihSecond =>
    obtain ⟨sameFirst, sameSecond⟩ := List.forall_mem_append.1 same
    rw [isMetBy, isMetBy, ihFirst sameFirst, ihSecond sameSecond]

end Condition

namespace Template

variable {context : Fields} {values lists : String → List Char} {answer other : Question → Bool}

/-- How a context answers a question. A variable that is not there does not hold. -/
def answerOf (context : Fields) (question : Question) : Bool :=
  match variableOf context question.1, question.2 with
  | .ok value, none => value.holds
  | .ok value, some text => value.isText text
  | .error _, _ => false

theorem isMetBy_answerOf {condition : Condition} {holds : Bool}
    (met : isMet context condition = .ok holds) : condition.isMetBy (answerOf context) = holds := by
  induction condition generalizing holds with
  | holds name =>
    obtain ⟨value, found, same⟩ := Result.bind_eq_ok_iff.1 met
    cases same
    rw [Condition.isMetBy, answerOf, found]
  | is name text =>
    obtain ⟨value, found, same⟩ := Result.bind_eq_ok_iff.1 met
    cases same
    rw [Condition.isMetBy, answerOf, found]
  | either first second ihFirst ihSecond =>
    obtain ⟨metFirst, asked, rest⟩ := Result.bind_eq_ok_iff.1 met
    rw [Condition.isMetBy, ihFirst asked]
    cases metFirst with
    | true =>
      cases rest
      rfl
    | false => exact ihSecond rest
  | both first second ihFirst ihSecond =>
    obtain ⟨metFirst, asked, rest⟩ := Result.bind_eq_ok_iff.1 met
    rw [Condition.isMetBy, ihFirst asked]
    cases metFirst with
    | true => exact ihSecond rest
    | false =>
      cases rest
      rfl

/-! ## Parts -/

inductive Part where
  | fixed (text : List Char)
  | value (name : String)
  | imports (name : String)
  deriving DecidableEq

namespace Part

def feed : Part := .fixed ['\n']

def isFeed : Part → Bool
  | .fixed [character] => character.toNat.beq '\n'.toNat
  | _ => false

theorem eq_feed_of_isFeed {part : Part} (ended : part.isFeed = true) : part = feed := by
  unfold isFeed at ended
  split at ended
  · rw [Char.toNat_inj.1 (Nat.eq_of_beq_eq_true ended)]
    rfl
  · cases ended

/-- The text of a part, given those of values and of lists of imports. -/
def text (values lists : String → List Char) : Part → List Char
  | .fixed text => text
  | .value name => values name
  | .imports name => lists name

/-- A part whose text is fixed if it is a value with a known text. -/
def bind (known : String → Option (List Char)) : Part → Part
  | .value name => (known name).elim (.value name) .fixed
  | part => part

theorem text_bind {known : String → Option (List Char)}
    (same : ∀ name text, known name = some text → values name = text) (part : Part) :
    (part.bind known).text values lists = part.text values lists := by
  cases part with
  | fixed text | imports name => rfl
  | value name =>
    cases found : known name with
    | none => rw [bind, found, Option.elim_none]
    | some text =>
      rw [bind, found, Option.elim_some]
      exact (same name text found).symm

end Part

/-- The text of parts with values and lists of imports filled in. -/
def fill (values lists : String → List Char) (parts : List Part) : List Char :=
  parts.flatMap (Part.text values lists)

theorem fill_append (front back : List Part) :
    fill values lists (front ++ back) = fill values lists front ++ fill values lists back :=
  List.flatMap_append

theorem fill_cons (part : Part) (parts : List Part) :
    fill values lists (part :: parts) = part.text values lists ++ fill values lists parts :=
  rfl

theorem fill_map_bind {known : String → Option (List Char)}
    (same : ∀ name text, known name = some text → values name = text) (parts : List Part) :
    fill values lists (parts.map (Part.bind known)) = fill values lists parts := by
  rw [fill, List.flatMap_map]
  exact List.flatMap_congr fun part _ => Part.text_bind same part

/-- The characters of a text. They are found quickly if each of them is coded by one octet. -/
def letters (text : String) : List Char :=
  (Text.ascii? text).getD text.toList

theorem letters_eq (text : String) : letters text = text.toList := by
  unfold letters
  cases read : Text.ascii? text with
  | none => rfl
  | some characters => exact (Text.toList_eq_of_ascii? read).symm

/-- The part that a line is, if it is not empty. -/
def linePart : List Char → List Part
  | [] => []
  | first :: line => [.fixed (first :: line)]

/-- The parts of lines, with the feeds between them on their own. -/
def lineParts : List (List Char) → List Part
  | [] => []
  | [line] => linePart line
  | line :: next :: lines => linePart line ++ Part.feed :: lineParts (next :: lines)

def textParts (text : String) : List Part :=
  lineParts ((letters text).splitOn '\n')

theorem fill_linePart (line : List Char) : fill values lists (linePart line) = line := by
  cases line with
  | nil => rfl
  | cons first line => exact List.append_nil _

theorem fill_lineParts (lines : List (List Char)) :
    fill values lists (lineParts lines) = ['\n'].intercalate lines := by
  induction lines with
  | nil => rfl
  | cons line lines ih =>
    cases lines with
    | nil => rw [lineParts, fill_linePart, List.intercalate_singleton]
    | cons next lines =>
      rw [lineParts, fill_append, fill_linePart, fill_cons, ih, List.intercalate_cons_cons,
        List.append_assoc]
      rfl

theorem fill_textParts (text : String) : fill values lists (textParts text) = text.toList := by
  rw [textParts, fill_lineParts, List.intercalate_splitOn, letters_eq]

mutual

/-- The parts that a piece writes if the questions of its choices are answered in some way. -/
def pieceParts (answer : Question → Bool) : Piece → List Part
  | .rows rows => rows.flatMap fun row => linePart (letters row) ++ [Part.feed]
  | .text content => textParts content
  | .value name => [.value name]
  | .imports name => [.imports name]
  | .choice condition holding otherwise =>
    if condition.isMetBy answer then parts answer holding else parts answer otherwise

def parts (answer : Question → Bool) : List Piece → List Part
  | [] => []
  | piece :: pieces => pieceParts answer piece ++ parts answer pieces

end

mutual

def pieceQuestions : Piece → List Question
  | .choice condition holding otherwise =>
    condition.questions ++ (questions holding ++ questions otherwise)
  | _ => []

/-- The questions that the choices of a template may ask. -/
def questions : List Piece → List Question
  | [] => []
  | piece :: pieces => pieceQuestions piece ++ questions pieces

end

mutual

theorem pieceParts_congr : ∀ (piece : Piece),
    (∀ question ∈ pieceQuestions piece, answer question = other question) →
    pieceParts answer piece = pieceParts other piece
  | .rows _, _ => by rw [pieceParts, pieceParts]
  | .text _, _ => by rw [pieceParts, pieceParts]
  | .value _, _ => by rw [pieceParts, pieceParts]
  | .imports _, _ => by rw [pieceParts, pieceParts]
  | .choice condition holding otherwise, same => by
    rw [pieceQuestions] at same
    obtain ⟨sameHere, sameBelow⟩ := List.forall_mem_append.1 same
    obtain ⟨sameHolding, sameOtherwise⟩ := List.forall_mem_append.1 sameBelow
    rw [pieceParts, pieceParts, Condition.isMetBy_congr sameHere, parts_congr holding sameHolding,
      parts_congr otherwise sameOtherwise]

theorem parts_congr : ∀ (pieces : List Piece),
    (∀ question ∈ questions pieces, answer question = other question) →
    parts answer pieces = parts other pieces
  | [], _ => rfl
  | piece :: pieces, same => by
    rw [questions] at same
    obtain ⟨sameHere, sameBelow⟩ := List.forall_mem_append.1 same
    rw [parts, parts, pieceParts_congr piece sameHere, parts_congr pieces sameBelow]

end

/-- There are as many ways for a template to be filled in as there are ways to say yes to some of its
questions. -/
theorem exists_sublist_parts_eq (answer : Question → Bool) {pieces : List Piece}
    {asked : List Question} (complete : ∀ question ∈ questions pieces, question ∈ asked) :
    ∃ agreed ∈ asked.sublists, parts answer pieces = parts (agreed.contains ·) pieces ∧
      ∀ question ∈ asked, (question ∈ agreed ↔ answer question = true) := by
  refine ⟨asked.filter answer, List.mem_sublists.2 List.filter_sublist, ?_, ?_⟩
  · refine parts_congr pieces fun question member => ?_
    rw [Bool.eq_iff_iff, List.contains_iff_mem, List.mem_filter]
    exact ⟨fun yes => ⟨complete question member, yes⟩, And.right⟩
  · intro question member
    rw [List.mem_filter]
    exact ⟨And.right, fun yes => ⟨member, yes⟩⟩

/-! ## What is rendered -/

/-- The text of a value in a context. -/
def valueIn (context : Fields) (name : String) : List Char :=
  ((renderPiece context (.value name)).toOption.getD "").toList

/-- The text of a list of imports in a context. -/
def listIn (context : Fields) (name : String) : List Char :=
  ((renderPiece context (.imports name)).toOption.getD "").toList

mutual

theorem toList_eq_fill_piece : ∀ (piece : Piece) {text : String},
    renderPiece context piece = .ok text → text.toList =
      fill (valueIn context) (listIn context) (pieceParts (answerOf context) piece)
  | .rows rows, text, rendered => by
    rw [renderPiece] at rendered
    cases rendered
    rw [pieceParts, String.toList_join, List.flatMap_map, fill, List.flatMap_assoc]
    refine List.flatMap_congr fun row _ => ?_
    have row_eq : fill (valueIn context) (listIn context) (linePart (letters row) ++ [Part.feed]) =
        row.toList ++ ['\n'] := by
      rw [fill_append, fill_linePart, letters_eq]
      rfl
    rw [Template.row, String.toList_append]
    exact row_eq.symm
  | .text content, text, rendered => by
    rw [renderPiece] at rendered
    cases rendered
    rw [pieceParts, fill_textParts]
  | .value name, text, rendered => by
    rw [pieceParts, fill_cons, Part.text, valueIn, rendered]
    exact (List.append_nil _).symm
  | .imports name, text, rendered => by
    rw [pieceParts, fill_cons, Part.text, listIn, rendered]
    exact (List.append_nil _).symm
  | .choice condition holding otherwise, text, rendered => by
    rw [renderPiece] at rendered
    obtain ⟨holds, met, rendered⟩ := Result.bind_eq_ok_iff.1 rendered
    rw [pieceParts, isMetBy_answerOf met]
    cases holds with
    | true => exact toList_eq_fill holding rendered
    | false => exact toList_eq_fill otherwise rendered

/-- What is rendered is the text of the parts, filled in. -/
theorem toList_eq_fill : ∀ (pieces : List Piece) {text : String},
    renderPieces context pieces = .ok text →
      text.toList = fill (valueIn context) (listIn context) (parts (answerOf context) pieces)
  | [], text, rendered => by
    cases rendered
    rfl
  | piece :: pieces, text, rendered => by
    obtain ⟨first, rest, renderedFirst, renderedRest, rfl⟩ := exists_of_renderPieces_cons rendered
    rw [String.toList_append, toList_eq_fill_piece piece renderedFirst,
      toList_eq_fill pieces renderedRest, parts, fill_append]

end

/-- What is rendered is filled in for some of the questions that a template asks: those that the
context agrees to. -/
theorem exists_agreed {template : Template} {text : String} (asked : List Question)
    (complete : ∀ question ∈ questions template, question ∈ asked)
    (rendered : renderPieces context template = .ok text) :
    ∃ agreed ∈ asked.sublists,
      text.toList = fill (valueIn context) (listIn context) (parts (agreed.contains ·) template) ∧
        ∀ question ∈ asked, (question ∈ agreed ↔ answerOf context question = true) := by
  obtain ⟨agreed, listed, parts_eq, agrees⟩ := exists_sublist_parts_eq (answerOf context) complete
  refine ⟨agreed, listed, ?_, agrees⟩
  rw [toList_eq_fill template rendered, parts_eq]

/-! ## Seams -/

section Seams

open Text

variable {α : Type} {table : MarkTable α} {plain : String → Bool}

/-- The fixed text that parts begin with. -/
def ahead : List Part → List Char
  | .fixed text :: parts => text ++ ahead parts
  | _ => []

theorem exists_fill_eq_ahead (parts : List Part) :
    ∃ rest, fill values lists parts = ahead parts ++ rest := by
  induction parts with
  | nil => exact ⟨[], rfl⟩
  | cons part parts ih =>
    cases part with
    | fixed text =>
      obtain ⟨rest, split⟩ := ih
      refine ⟨rest, ?_⟩
      rw [fill_cons, split, ahead, List.append_assoc]
      rfl
    | value name | imports name => exact ⟨_, rfl⟩

/-- Whether no pattern that begins in some characters goes on in a part. -/
def joinsFirst (table : MarkTable α) (allowed : Char → Bool) : Option Part → Bool
  | some (.fixed text) => table.all fun entry => opens allowed text entry.1
  | _ => false

/-- Whether no pattern that begins in some characters goes on in parts. That is mostly seen in the first
one. -/
def joins (table : MarkTable α) (allowed : Char → Bool) (parts : List Part) : Bool :=
  joinsFirst table allowed parts.head? ||
    table.all fun entry => opens allowed (ahead parts) entry.1

/-- Whether a line ends here, and no pattern goes over the end of a line. -/
def endsLine (table : MarkTable α) (parts : List Part) : Bool :=
  parts.head?.any Part.isFeed && table.all fun entry => opens (fun _ => true) ['\n'] entry.1

/-- Whether no pattern goes from a part on into the next ones, if plain values are words. -/
def holdsApart (table : MarkTable α) (plain : String → Bool) (parts : List Part) (part : Part) : Bool :=
  endsLine table parts ||
    match part with
    | .fixed text =>
      (table.all fun entry => closes text entry.1) || joins table (fun _ => true) parts
    | .value name => joins table (fun character => !plain name || isWord character) parts
    | .imports _ => joins table (fun _ => true) parts

/-- Whether no pattern goes over a seam. -/
def areApart (table : MarkTable α) (plain : String → Bool) : List Part → Bool
  | [] => true
  | [_] => true
  | part :: next :: parts =>
    holdsApart table plain (next :: parts) part && areApart table plain (next :: parts)

section Apart

variable {parts : List Part} {part : Part} {front : List Char} {entry : List Char × α}

theorem apart_of_joins {allowed : Char → Bool} (joined : joins table allowed parts = true)
    (only : ∀ character ∈ front, allowed character) (listed : entry ∈ table) :
    Apart entry.1 front (fill values lists parts) := by
  rcases Bool.or_eq_true_iff.1 joined with first | all
  · unfold joinsFirst at first
    split at first
    · next text isFirst =>
      obtain ⟨rest, rfl⟩ := List.head?_eq_some_iff.1 isFirst
      exact apart_of_opens (List.all_eq_true.1 first entry listed) only
    · cases first
  · obtain ⟨rest, split⟩ := exists_fill_eq_ahead parts
    rw [split]
    exact apart_of_opens (List.all_eq_true.1 all entry listed) only

theorem apart_of_endsLine (ended : endsLine table parts = true) (listed : entry ∈ table) :
    Apart entry.1 front (fill values lists parts) := by
  obtain ⟨fed, opened⟩ := Bool.and_eq_true_iff.1 ended
  obtain ⟨first, isFirst, isFeed⟩ := (Option.any_eq_true _ _).1 fed
  obtain ⟨rest, rfl⟩ := List.head?_eq_some_iff.1 isFirst
  rw [Part.eq_feed_of_isFeed isFeed]
  exact apart_of_opens (List.all_eq_true.1 opened entry listed) fun _ _ => rfl

theorem apart_of_holdsApart
    (words : ∀ name, plain name = true → ∀ character ∈ values name, isWord character)
    (held : holdsApart table plain parts part = true) (listed : entry ∈ table) :
    Apart entry.1 (part.text values lists) (fill values lists parts) := by
  rcases Bool.or_eq_true_iff.1 held with ended | held
  · exact apart_of_endsLine ended listed
  · cases part with
    | fixed text =>
      rcases Bool.or_eq_true_iff.1 held with closed | joined
      · exact apart_of_closes (List.all_eq_true.1 closed entry listed)
      · exact apart_of_joins joined (fun _ _ => rfl) listed
    | value name =>
      refine apart_of_joins held (fun character among => ?_) listed
      cases wordly : plain name with
      | true => exact words name wordly character among
      | false => rfl
    | imports name => exact apart_of_joins held (fun _ _ => rfl) listed

end Apart

/-- The marks of what is filled in are those of the parts in order. -/
theorem marks_fill (words : ∀ name, plain name = true → ∀ character ∈ values name, isWord character)
    {parts : List Part} (apart : areApart table plain parts = true) :
    marks table (fill values lists parts) =
      parts.flatMap fun part => marks table (part.text values lists) := by
  induction parts with
  | nil => rfl
  | cons part parts ih =>
    cases parts with
    | nil =>
      rw [fill_cons, List.flatMap_singleton]
      exact congrArg _ (List.append_nil _)
    | cons next parts =>
      obtain ⟨held, below⟩ := Bool.and_eq_true_iff.1 apart
      rw [fill_cons, marks_append fun entry listed => apart_of_holdsApart words held listed,
        ih below]
      rfl

end Seams

/-! ## Lines -/

/-- Parts line by line. -/
def sheet (parts : List Part) : List (List Part) :=
  parts.splitOnP Part.isFeed

theorem fill_eq_intercalate (parts : List Part) :
    fill values lists parts = ['\n'].intercalate ((sheet parts).map (fill values lists)) := by
  induction parts with
  | nil => rfl
  | cons part parts ih =>
    obtain ⟨line, lines, split⟩ := List.exists_cons_of_ne_nil (List.splitOnP_ne_nil Part.isFeed parts)
    rw [sheet, split, List.map_cons] at ih
    rw [fill_cons, ih, sheet, List.splitOnP_cons_eq_if_modifyHead, split]
    split
    · next ended =>
      rw [Part.eq_feed_of_isFeed ended, List.map_cons, List.map_cons, List.intercalate_cons_cons]
      rfl
    · rw [List.modifyHead_cons, List.map_cons, fill_cons]
      cases lines with
      | nil => rw [List.map_nil, List.intercalate_singleton, List.intercalate_singleton]
      | cons next lines =>
        rw [List.map_cons, List.intercalate_cons_cons, List.intercalate_cons_cons,
          List.append_assoc, List.append_assoc, List.append_assoc]

theorem splitOn_intercalate (lines : List (List Char)) (filled : lines ≠ []) :
    (['\n'].intercalate lines).splitOn '\n' = lines.flatMap (List.splitOn '\n') := by
  induction lines with
  | nil => exact absurd rfl filled
  | cons line lines ih =>
    cases lines with
    | nil => rw [List.intercalate_singleton, List.flatMap_singleton]
    | cons next lines =>
      rw [List.intercalate_cons_cons, List.append_assoc, List.singleton_append, List.flatMap_cons,
        ← ih (List.cons_ne_nil next lines)]
      exact List.splitOnP_append_cons _ _ (by decide)

/-- The lines of what is filled in are those of its lines. -/
theorem splitOn_fill (parts : List Part) :
    (fill values lists parts).splitOn '\n' =
      (sheet parts).flatMap fun line => (fill values lists line).splitOn '\n' := by
  have filled : (sheet parts).map (fill values lists) ≠ [] :=
    fun empty => List.splitOnP_ne_nil Part.isFeed parts (List.map_eq_nil_iff.1 empty)
  rw [fill_eq_intercalate, splitOn_intercalate _ filled, List.flatMap_map]

end Template

end Scaffold
