import Scaffold.Proofs.Template.Render
import Scaffold.Proofs.Text.Ascii
import Scaffold.Template.Library

/-!
# Brackets that a template writes

A text whose brackets are matched and properly nested, and how a template leaves the brackets that are
open: the same whichever ways its choices go, as long as no value holds a bracket.
-/

set_option autoImplicit false

namespace Scaffold

namespace Text

/-- The bracket that closes an opening one. -/
def closing? : Char → Option Char
  | '(' => some ')'
  | '[' => some ']'
  | '\x7b' => some '\x7d'
  | _ => none

def isClosing (character : Char) : Bool :=
  character = ')' || character = ']' || character = '\x7d'

def isBracket (character : Char) : Bool :=
  (closing? character).isSome || isClosing character

/-- Whether the brackets of a text are matched and properly nested. -/
inductive Nested : List Char → Prop where
  | nil : Nested []
  | plain {character : Char} {rest : List Char} :
      isBracket character = false → Nested rest → Nested (character :: rest)
  | pair {opening closing : Char} {inside rest : List Char} :
      closing? opening = some closing → Nested inside → Nested rest →
      Nested (opening :: (inside ++ closing :: rest))

def Unbracketed (text : List Char) : Prop :=
  ∀ character ∈ text, isBracket character = false

/-- The brackets that are yet to be closed behind a character, the innermost first. -/
def pendingAfter (pending : List Char) (character : Char) : Option (List Char) :=
  match closing? character with
  | some closing => some (closing :: pending)
  | none =>
    if isClosing character then
      match pending with
      | [] => none
      | innermost :: outer => if innermost = character then some outer else none
    else some pending

/-- The brackets that are yet to be closed behind a text, if it closes none that is not the innermost
open one. -/
def pendingBehind (pending text : List Char) : Option (List Char) :=
  text.foldlM pendingAfter pending

/-- Whether a text closes the pending brackets in turn, and is nested around and between them. -/
def Closes : List Char → List Char → Prop
  | [], text => Nested text
  | closing :: pending, text =>
    ∃ inside rest, text = inside ++ closing :: rest ∧ Nested inside ∧ Closes pending rest

variable {pending next text rest : List Char} {character opening closing : Char}

theorem pendingBehind_append :
    pendingBehind pending (text ++ rest) =
      (pendingBehind pending text).bind fun next => pendingBehind next rest :=
  List.foldlM_append

theorem pendingAfter_of_plain (plain : isBracket character = false) :
    pendingAfter pending character = some pending := by
  obtain ⟨opens, unclosed⟩ := Bool.or_eq_false_iff.1 plain
  have unopened : closing? character = none :=
    Option.isNone_iff_eq_none.1 (Option.isSome_eq_false_iff.1 opens)
  simp [pendingAfter, unopened, unclosed]

theorem pendingAfter_of_opens (pending : List Char) (opens : closing? opening = some closing) :
    pendingAfter pending opening = some (closing :: pending) ∧
      pendingAfter (closing :: pending) closing = some pending := by
  unfold closing? at opens
  split at opens
  · cases opens
    exact ⟨rfl, rfl⟩
  · cases opens
    exact ⟨rfl, rfl⟩
  · cases opens
    exact ⟨rfl, rfl⟩
  · cases opens

theorem pendingBehind_of_unbracketed (unbracketed : Unbracketed text) :
    pendingBehind pending text = some pending := by
  induction text with
  | nil => rfl
  | cons character text ih =>
    obtain ⟨plain, below⟩ := List.forall_mem_cons.1 unbracketed
    rw [pendingBehind, List.foldlM_cons, pendingAfter_of_plain plain]
    exact ih below

/-! ## Nested texts -/

theorem Closes.plain (plain : isBracket character = false) (closes : Closes pending text) :
    Closes pending (character :: text) := by
  cases pending with
  | nil => exact Nested.plain plain closes
  | cons innermost outer =>
    obtain ⟨inside, rest, rfl, nested, closesOuter⟩ := closes
    exact ⟨character :: inside, rest, rfl, .plain plain nested, closesOuter⟩

theorem Closes.open (opens : closing? opening = some closing)
    (closes : Closes (closing :: pending) text) : Closes pending (opening :: text) := by
  obtain ⟨inside, rest, rfl, nested, closesRest⟩ := closes
  cases pending with
  | nil => exact Nested.pair opens nested closesRest
  | cons innermost outer =>
    obtain ⟨between, below, rfl, nestedBetween, closesOuter⟩ := closesRest
    refine ⟨opening :: (inside ++ closing :: between), below, ?_,
      .pair opens nested nestedBetween, closesOuter⟩
    simp

theorem Closes.close (closes : Closes pending text) :
    Closes (closing :: pending) (closing :: text) :=
  ⟨[], text, rfl, .nil, closes⟩

theorem closes_of_pendingBehind (ended : pendingBehind pending text = some []) :
    Closes pending text := by
  induction text generalizing pending with
  | nil =>
    cases ended
    exact Nested.nil
  | cons character text ih =>
    rw [pendingBehind, List.foldlM_cons] at ended
    obtain ⟨next, after, ended⟩ := Option.bind_eq_some_iff.1 ended
    have closes : Closes next text := ih ended
    unfold pendingAfter at after
    split at after
    · next closing opens =>
      cases after
      exact closes.open opens
    · next unopened =>
      split at after
      · split at after
        · cases after
        · split at after
          · next same =>
            cases after
            cases same
            exact closes.close
          · cases after
      · next unclosed =>
        cases after
        refine closes.plain ?_
        rw [isBracket, unopened, Bool.eq_false_iff.2 unclosed]
        rfl

theorem pendingBehind_of_nested (nested : Nested text) :
    pendingBehind pending text = some pending := by
  induction nested generalizing pending with
  | nil => rfl
  | plain plain _ ih =>
    rw [pendingBehind, List.foldlM_cons, pendingAfter_of_plain plain]
    exact ih
  | @pair opening closing inside rest opens _ _ ihInside ihRest =>
    obtain ⟨afterOpening, afterClosing⟩ := pendingAfter_of_opens pending opens
    have behindClosing : pendingBehind (closing :: pending) (closing :: rest) = some pending := by
      rw [pendingBehind, List.foldlM_cons, afterClosing]
      exact ihRest
    have behindInside : pendingBehind (closing :: pending) (inside ++ closing :: rest) =
        some pending := by
      rw [pendingBehind_append, ihInside]
      exact behindClosing
    rw [pendingBehind, List.foldlM_cons, afterOpening]
    exact behindInside

/-- A text is nested exactly if nothing is open behind it, and no bracket in it closes another one than
the innermost. -/
theorem nested_iff_pendingBehind : Nested text ↔ pendingBehind [] text = some [] :=
  ⟨pendingBehind_of_nested, closes_of_pendingBehind⟩

instance (text : List Char) : Decidable (Nested text) :=
  decidable_of_iff _ nested_iff_pendingBehind.symm

end Text

namespace Template

open Text

/-! ## Templates -/

mutual

/-- The variables whose values a piece may write. -/
def pieceWritten : Piece → List String
  | .rows _ => []
  | .text _ => []
  | .value name => [name]
  | .imports _ => []
  | .choice _ holding otherwise => written holding ++ written otherwise

def written : List Piece → List String
  | [] => []
  | piece :: pieces => pieceWritten piece ++ written pieces

end

def pendingBehindText (pending : List Char) (text : String) : Option (List Char) :=
  (ascii? text).bind (pendingBehind pending)

mutual

/-- The brackets that are yet to be closed behind a piece, if that does not depend on its choices. -/
def pendingBehindPiece (pending : List Char) : Piece → Option (List Char)
  | .rows rows => rows.foldlM pendingBehindText pending
  | .text content => pendingBehindText pending content
  | .value _ => some pending
  | .imports _ => some pending
  | .choice _ holding otherwise =>
    (pendingBehindPieces pending holding).filter fun next =>
      pendingBehindPieces pending otherwise = some next

def pendingBehindPieces (pending : List Char) : List Piece → Option (List Char)
  | [] => some pending
  | piece :: pieces =>
    (pendingBehindPiece pending piece).bind fun next => pendingBehindPieces next pieces

end

/-- Whether what is written for the values of some variables, and for the imports of some others,
holds no bracket. -/
structure WritesUnbracketed (context : Fields) (names imports : List String) : Prop where
  values : ∀ name ∈ names, ∀ text, renderPiece context (.value name) = .ok text →
    Unbracketed text.toList
  listed : ∀ name ∈ imports, ∀ text, renderPiece context (.imports name) = .ok text →
    Unbracketed text.toList

variable {context : Fields} {pending next : List Char}

theorem WritesUnbracketed.of_subset {names fewer imports fewerImports : List String}
    (unbracketed : WritesUnbracketed context names imports) (among : fewer ⊆ names)
    (importsAmong : fewerImports ⊆ imports) : WritesUnbracketed context fewer fewerImports :=
  ⟨fun name member => unbracketed.values name (among member),
    fun name member => unbracketed.listed name (importsAmong member)⟩

theorem pendingBehind_of_text {text : String} (scanned : pendingBehindText pending text = some next) :
    pendingBehind pending text.toList = some next := by
  obtain ⟨characters, read, behind⟩ := Option.bind_eq_some_iff.1 scanned
  rwa [toList_eq_of_ascii? read]

theorem pendingBehind_of_rows {rows : List String}
    (scanned : rows.foldlM pendingBehindText pending = some next) :
    pendingBehind pending (String.join (rows.map row)).toList = some next := by
  induction rows generalizing pending with
  | nil => exact scanned
  | cons first rows ih =>
    rw [List.foldlM_cons] at scanned
    obtain ⟨middle, scannedFirst, scannedRest⟩ := Option.bind_eq_some_iff.1 scanned
    have joined_eq : (String.join ((first :: rows).map row)).toList =
        (first.toList ++ ['\n']) ++ (String.join (rows.map row)).toList := by
      simp [row, String.toList_append, String.toList_join]
    have feed : pendingBehind middle ['\n'] = some middle := rfl
    rw [joined_eq, pendingBehind_append, pendingBehind_append, pendingBehind_of_text scannedFirst,
      Option.bind_some, feed, Option.bind_some]
    exact ih scannedRest

mutual

theorem pendingBehind_of_piece : ∀ (piece : Piece) {pending next : List Char} {text : String},
    WritesUnbracketed context (pieceWritten piece) (pieceImported piece) →
    pendingBehindPiece pending piece = some next →
    renderPiece context piece = .ok text → pendingBehind pending text.toList = some next
  | .rows rows, pending, next, text, _, scanned, rendered => by
    rw [renderPiece] at rendered
    rw [pendingBehindPiece] at scanned
    cases rendered
    exact pendingBehind_of_rows scanned
  | .text content, pending, next, text, _, scanned, rendered => by
    rw [renderPiece] at rendered
    rw [pendingBehindPiece] at scanned
    cases rendered
    exact pendingBehind_of_text scanned
  | .value name, pending, next, text, unbracketed, scanned, rendered => by
    rw [pendingBehindPiece] at scanned
    cases scanned
    exact pendingBehind_of_unbracketed (unbracketed.values name List.mem_cons_self text rendered)
  | .imports name, pending, next, text, unbracketed, scanned, rendered => by
    rw [pendingBehindPiece] at scanned
    cases scanned
    exact pendingBehind_of_unbracketed (unbracketed.listed name List.mem_cons_self text rendered)
  | .choice condition holding otherwise, pending, next, text, unbracketed, scanned, rendered => by
    rw [pendingBehindPiece] at scanned
    obtain ⟨scannedHolding, scannedOtherwise⟩ := Option.filter_eq_some_iff.1 scanned
    rw [renderPiece] at rendered
    cases met : isMet context condition with
    | error fault =>
      rw [met] at rendered
      cases rendered
    | ok holds =>
      rw [met] at rendered
      -- Whichever way is taken, the same brackets are open behind it.
      cases holds with
      | true =>
        exact pendingBehind_of_pieces holding (unbracketed.of_subset (List.subset_append_left _ _)
          (List.subset_append_left _ _)) scannedHolding rendered
      | false =>
        exact pendingBehind_of_pieces otherwise (unbracketed.of_subset
          (List.subset_append_right _ _) (List.subset_append_right _ _))
          (of_decide_eq_true scannedOtherwise) rendered

theorem pendingBehind_of_pieces :
    ∀ (pieces : List Piece) {pending next : List Char} {text : String},
      WritesUnbracketed context (written pieces) (imported pieces) →
      pendingBehindPieces pending pieces = some next →
      renderPieces context pieces = .ok text → pendingBehind pending text.toList = some next
  | [], pending, next, text, _, scanned, rendered => by
    cases scanned
    cases rendered
    rfl
  | piece :: pieces, pending, next, text, unbracketed, scanned, rendered => by
    rw [pendingBehindPieces] at scanned
    obtain ⟨middle, scannedFirst, scannedRest⟩ := Option.bind_eq_some_iff.1 scanned
    obtain ⟨first, rest, renderedFirst, renderedRest, rfl⟩ := exists_of_renderPieces_cons rendered
    have behindFirst := pendingBehind_of_piece piece (unbracketed.of_subset
      (List.subset_append_left _ _) (List.subset_append_left _ _)) scannedFirst renderedFirst
    have behindRest := pendingBehind_of_pieces pieces (unbracketed.of_subset
      (List.subset_append_right _ _) (List.subset_append_right _ _)) scannedRest renderedRest
    rw [String.toList_append, pendingBehind_append, behindFirst]
    exact behindRest

end

/-! ## The templates at hand -/

/-- No template leaves a bracket open, and none closes another one than the innermost. -/
theorem pendingBehindPieces_of_mem_all :
    ∀ named ∈ all, pendingBehindPieces [] named.2 = some [] := by
  decide +kernel

/-- Whether a template begins with the rows that a source file must begin with. -/
def beginsFile : Template → Bool
  | .rows ("<?php" :: "" :: "declare(strict_types=1);" :: _) :: _ => true
  | _ => false

mutual

def endsFilePiece : Piece → Bool
  | .rows rows => rows.getLast? == some "\x7d"
  | .text _ => false
  | .value _ => false
  | .imports _ => false
  | .choice _ holding otherwise => endsFile holding && endsFile otherwise

/-- Whether the last row is a closing brace, whichever ways the choices go. -/
def endsFile : List Piece → Bool
  | [] => false
  | [piece] => endsFilePiece piece
  | _ :: pieces => endsFile pieces

end

/-- Whether a text begins and ends as a source file must, and its brackets are nested. -/
structure IsFile (text : String) : Prop where
  nested : Nested text.toList
  begins : "<?php\n\ndeclare(strict_types=1);\n".toList <+: text.toList
  ends : ['\x7d', '\n'] <:+ text.toList

variable {template : Template} {text : String}

theorem begins_of_render (begins : beginsFile template = true)
    (rendered : template.render context = .ok text) :
    "<?php\n\ndeclare(strict_types=1);\n".toList <+: text.toList := by
  unfold beginsFile at begins
  split at begins
  · next rows pieces =>
    obtain ⟨first, rest, renderedFirst, -, rfl⟩ := exists_of_renderPieces_cons rendered
    cases renderedFirst
    rw [String.toList_append, String.toList_join, List.map_cons, List.map_cons, List.map_cons]
    refine ⟨(rows.map row).flatMap String.toList ++ rest.toList, ?_⟩
    simp [row]
  · cases begins

mutual

theorem ends_of_renderPiece : ∀ (piece : Piece) {text : String}, endsFilePiece piece = true →
    renderPiece context piece = .ok text → ['\x7d', '\n'] <:+ text.toList
  | .rows rows, text, ends, rendered => by
    rw [renderPiece] at rendered
    rw [endsFilePiece] at ends
    cases rendered
    obtain ⟨above, rfl⟩ := List.getLast?_eq_some_iff.1 (eq_of_beq ends)
    rw [List.map_append, String.toList_join, List.flatMap_append]
    exact List.suffix_append _ _
  | .choice condition holding otherwise, text, ends, rendered => by
    rw [endsFilePiece] at ends
    obtain ⟨endsHolding, endsOtherwise⟩ := Bool.and_eq_true_iff.1 ends
    rw [renderPiece] at rendered
    cases met : isMet context condition with
    | error fault =>
      rw [met] at rendered
      cases rendered
    | ok holds =>
      rw [met] at rendered
      cases holds with
      | true => exact ends_of_renderPieces holding endsHolding rendered
      | false => exact ends_of_renderPieces otherwise endsOtherwise rendered

theorem ends_of_renderPieces : ∀ (pieces : List Piece) {text : String}, endsFile pieces = true →
    renderPieces context pieces = .ok text → ['\x7d', '\n'] <:+ text.toList
  | [piece], text, ends, rendered => by
    obtain ⟨first, rest, renderedFirst, renderedRest, rfl⟩ := exists_of_renderPieces_cons rendered
    cases renderedRest
    rw [String.append_empty]
    exact ends_of_renderPiece piece ends renderedFirst
  | _ :: second :: pieces, text, ends, rendered => by
    obtain ⟨first, rest, -, renderedRest, rfl⟩ := exists_of_renderPieces_cons rendered
    rw [String.toList_append]
    exact (ends_of_renderPieces (second :: pieces) ends renderedRest).trans
      (List.suffix_append _ _)

end

theorem isFile_of_render {name : String} (among : (name, template) ∈ all)
    (unbracketed : WritesUnbracketed context (written template) (imported template))
    (rendered : template.render context = .ok text) : IsFile text := by
  have framed : ∀ named ∈ all, beginsFile named.2 = true ∧ endsFile named.2 = true := by
    decide +kernel
  obtain ⟨begins, ends⟩ := framed _ among
  exact {
    nested := nested_iff_pendingBehind.2 (pendingBehind_of_pieces template unbracketed
      (pendingBehindPieces_of_mem_all _ among) rendered)
    begins := begins_of_render begins rendered
    ends := ends_of_renderPieces template ends rendered }

end Template

end Scaffold
