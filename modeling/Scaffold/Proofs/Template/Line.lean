import Scaffold.Proofs.Template.Imports
import Scaffold.Proofs.Template.Render
import Scaffold.Proofs.Text.Search

/-!
# Lines that a template writes

Where in a text a line begins in a given way, and what the line of a template that does so consists of,
up to the values of its variables. A reader goes through a template as through the text that comes of
it. Both ways of a choice must bring the reader to the same place, and no value may break a line.
-/

set_option autoImplicit false

namespace Scaffold

namespace Text

/-- What is left of some openings behind a character that they begin with. -/
def behind (character : Char) (openings : List (List Char)) : List (List Char) :=
  openings.filterMap fun opening => after? [character] opening

/-- Whether nothing is left of one of some openings. -/
def isEnded (openings : List (List Char)) : Bool :=
  openings.any List.isEmpty

/-- What follows the shortest of some openings that a text begins with. -/
def afterAny? (openings : List (List Char)) : List Char → Option (List Char)
  | [] => if isEnded openings then some [] else none
  | character :: rest =>
    if isEnded openings then some (character :: rest) else afterAny? (behind character openings) rest

/-- What follows the opening in the first line that begins with one of some openings. -/
def lineAfter? (openings : List (List Char)) (text : List Char) : Option (List Char) :=
  (text.splitOn '\n').findSome? (afterAny? openings)

theorem isEnded_iff {openings : List (List Char)} : isEnded openings = true ↔ [] ∈ openings := by
  simp [isEnded]

theorem mem_behind {character : Char} {openings : List (List Char)} {rest : List Char} :
    rest ∈ behind character openings ↔ character :: rest ∈ openings := by
  simp [behind, after?_eq_some_iff]

/-- What is found follows the shortest of the openings that the text begins with. -/
theorem afterAny?_eq_some_iff {openings : List (List Char)} {text rest : List Char} :
    afterAny? openings text = some rest ↔
      ∃ opening ∈ openings, text = opening ++ rest ∧
        ∀ other ∈ openings, other <+: text → opening.length ≤ other.length := by
  induction text generalizing openings with
  | nil =>
    rw [afterAny?]
    split
    · next ended =>
      constructor
      · intro found
        cases found
        exact ⟨[], isEnded_iff.1 ended, rfl, fun _ _ _ => Nat.zero_le _⟩
      · rintro ⟨opening, -, split, -⟩
        rw [(List.append_eq_nil_iff.1 split.symm).2]
    · next unended =>
      constructor
      · intro found
        cases found
      · rintro ⟨opening, among, split, -⟩
        have empty := (List.append_eq_nil_iff.1 split.symm).1
        exact absurd (isEnded_iff.2 (empty ▸ among)) unended
  | cons character text ih =>
    rw [afterAny?]
    split
    · next ended =>
      constructor
      · intro found
        cases found
        exact ⟨[], isEnded_iff.1 ended, rfl, fun _ _ _ => Nat.zero_le _⟩
      · rintro ⟨opening, -, split, shortest⟩
        have empty := List.eq_nil_of_length_eq_zero
          (Nat.le_zero.1 (shortest [] (isEnded_iff.1 ended) List.nil_prefix))
        rw [split, empty, List.nil_append]
    · next unended =>
      rw [ih]
      constructor
      · rintro ⟨opening, among, rfl, shortest⟩
        refine ⟨character :: opening, mem_behind.1 among, rfl, fun other member begins => ?_⟩
        cases other with
        | nil => exact absurd (isEnded_iff.2 member) unended
        | cons first other =>
          obtain ⟨rfl, below⟩ := List.cons_prefix_cons.1 begins
          exact Nat.succ_le_succ (shortest other (mem_behind.2 member) below)
      · rintro ⟨opening, among, split, shortest⟩
        cases opening with
        | nil => exact absurd (isEnded_iff.2 among) unended
        | cons first opening =>
          obtain ⟨rfl, rfl⟩ := List.cons_eq_cons.1 split
          refine ⟨opening, mem_behind.2 among, rfl, fun other member begins => ?_⟩
          have longer := shortest (character :: other) (mem_behind.1 member)
            (List.cons_prefix_cons.2 ⟨rfl, begins⟩)
          exact Nat.le_of_succ_le_succ longer

theorem afterAny?_eq_none_iff {openings : List (List Char)} {text : List Char} :
    afterAny? openings text = none ↔ ∀ opening ∈ openings, ¬ opening <+: text := by
  induction text generalizing openings with
  | nil =>
    have unended : afterAny? openings [] = none ↔ [] ∉ openings := by
      simp [afterAny?, isEnded_iff]
    simp only [unended, List.prefix_nil]
    exact ⟨fun absent opening among empty => absent (empty ▸ among), fun absent among =>
      absent [] among rfl⟩
  | cons character text ih =>
    rw [afterAny?]
    split
    · next ended => simpa using ⟨[], isEnded_iff.1 ended, List.nil_prefix⟩
    · next unended =>
      rw [ih]
      constructor
      · intro absent opening among begins
        cases opening with
        | nil => exact unended (isEnded_iff.2 among)
        | cons first opening =>
          obtain ⟨rfl, below⟩ := List.cons_prefix_cons.1 begins
          exact absent opening (mem_behind.2 among) below
      · intro absent opening among begins
        exact absent _ (mem_behind.1 among) (List.cons_prefix_cons.2 ⟨rfl, begins⟩)

/-- The line that is looked for is the first that begins with an opening. -/
theorem lineAfter?_eq_some_iff {openings : List (List Char)} {text rest : List Char} :
    lineAfter? openings text = some rest ↔
      ∃ above line below, text.splitOn '\n' = above ++ line :: below ∧
        afterAny? openings line = some rest ∧
        ∀ earlier ∈ above, ∀ opening ∈ openings, ¬ opening <+: earlier := by
  rw [lineAfter?, List.findSome?_eq_some_iff]
  simp only [afterAny?_eq_none_iff]

theorem exists_splitOn_append {front : List Char} (whole : '\n' ∉ front) (rest : List Char) :
    ∃ line lines, rest.splitOn '\n' = line :: lines ∧
      (front ++ rest).splitOn '\n' = (front ++ line) :: lines := by
  induction front with
  | nil =>
    obtain ⟨line, lines, split⟩ := List.exists_cons_of_ne_nil (List.splitOn_ne_nil '\n' rest)
    exact ⟨line, lines, split, split⟩
  | cons character front ih =>
    rw [List.mem_cons, not_or] at whole
    obtain ⟨line, lines, split, splitFront⟩ := ih whole.2
    have other : (character == '\n') = false := beq_eq_false_iff_ne.2 (Ne.symm whole.1)
    refine ⟨line, lines, split, ?_⟩
    rw [List.cons_append, List.splitOn_cons_eq_if_modifyHead, if_neg (by simp [other]), splitFront]
    rfl

end Text

namespace Template

open Text

/-! ## Lines up to the values of variables -/

/-- A character of a line, or the value of a variable in it. -/
inductive Mark where
  | letter (character : Char)
  | value (name : String)
  deriving DecidableEq, Repr

/-- What a variable shows as. -/
def shown (context : Fields) (name : String) : String :=
  ((context.get? name).getD .null).display

def Mark.text (context : Fields) : Mark → List Char
  | .letter character => [character]
  | .value name => (shown context name).toList

def outlineText (context : Fields) (outline : List Mark) : List Char :=
  outline.flatMap (Mark.text context)

/-- The outline of a text without variables. -/
def plainOutline (text : String) : List Mark :=
  text.toList.map .letter

@[simp] theorem outlineText_nil (context : Fields) : outlineText context [] = [] := rfl

@[simp] theorem outlineText_append (context : Fields) (first second : List Mark) :
    outlineText context (first ++ second) = outlineText context first ++ outlineText context second :=
  List.flatMap_append

@[simp] theorem outlineText_plainOutline (context : Fields) (text : String) :
    outlineText context (plainOutline text) = text.toList := by
  simp [outlineText, plainOutline, List.flatMap_map, Mark.text]

@[simp] theorem outlineText_value_cons (context : Fields) (name : String) (outline : List Mark) :
    outlineText context (.value name :: outline) =
      (shown context name).toList ++ outlineText context outline := by
  simp [outlineText, Mark.text]

/-! ## Readers -/

/-- Where a reader stands who looks for the first line with one of some openings: in a line that may
still begin with one, of which some rests are expected, or with none; in the line; or behind it. -/
inductive Reader where
  | opening (expected : List (List Char))
  | inside (outline : List Mark)
  | done (outline : List Mark)
  deriving DecidableEq, Repr

namespace Reader

/-- Reads the end of a line. -/
def feed (openings : List (List Char)) : Reader → Reader
  | .opening expected => if isEnded expected then .done [] else .opening openings
  | .inside outline => .done outline
  | .done outline => .done outline

/-- Reads a character of a line. -/
def advance (character : Char) : Reader → Reader
  | .opening expected =>
    if isEnded expected then .inside [.letter character] else .opening (behind character expected)
  | .inside outline => .inside (outline ++ [.letter character])
  | .done outline => .done outline

def step (openings : List (List Char)) (reader : Reader) (character : Char) : Reader :=
  if character = '\n' then reader.feed openings else reader.advance character

/-- Reads a text, unless the line is behind already. -/
def take (openings : List (List Char)) (text : List Char) : Reader → Reader
  | .done outline => .done outline
  | reader => text.foldl (step openings) reader

/-- Reads the value of a variable, unless it decides whether the line begins with an opening. -/
def takeValue (name : String) : Reader → Option Reader
  | .opening expected =>
    if isEnded expected then some (.inside [.value name])
    else if expected = [] then some (.opening [])
    else none
  | .inside outline => some (.inside (outline ++ [.value name]))
  | .done outline => some (.done outline)

/-- Reads import lines, which begin with no opening. -/
def takeImports (openings : List (List Char)) : Reader → Option Reader
  | .opening expected =>
    if expected = openings ∧ isEnded openings = false ∧ behind 'u' openings = [] then
      some (.opening [])
    else none
  | .inside _ => none
  | .done outline => some (.done outline)

def isDone : Reader → Bool
  | .done _ => true
  | _ => false

variable {openings : List (List Char)} {context : Fields}

/-- What a reader finds who goes on with some lines. -/
def find? (openings : List (List Char)) (context : Fields) :
    Reader → List (List Char) → Option (List Char)
  | _, [] => none
  | .opening expected, line :: lines =>
    (afterAny? expected line).or (lines.findSome? (afterAny? openings))
  | .inside outline, line :: _ => some (outlineText context outline ++ line)
  | .done outline, _ :: _ => some (outlineText context outline)

theorem afterAny?_nil (text : List Char) : afterAny? [] text = none :=
  afterAny?_eq_none_iff.2 nofun

theorem find?_opening (lines : List (List Char)) :
    find? openings context (.opening openings) lines = lines.findSome? (afterAny? openings) := by
  cases lines with
  | nil => rfl
  | cons line lines =>
    rw [find?, List.findSome?_cons]
    cases afterAny? openings line <;> rfl

/-- Whether a text brings a reader from one place to another, whatever follows. -/
def Moves (openings : List (List Char)) (context : Fields) (reader : Reader) (text : List Char)
    (next : Reader) : Prop :=
  ∀ rest, reader.find? openings context ((text ++ rest).splitOn '\n') =
    next.find? openings context (rest.splitOn '\n')

theorem Moves.refl (reader : Reader) : Moves openings context reader [] reader := fun _ => rfl

theorem Moves.trans {reader middle next : Reader} {front back : List Char}
    (first : Moves openings context reader front middle)
    (second : Moves openings context middle back next) :
    Moves openings context reader (front ++ back) next := by
  intro rest
  rw [List.append_assoc, first, second]

theorem moves_feed (reader : Reader) :
    Moves openings context reader ['\n'] (reader.feed openings) := by
  intro rest
  have split : (['\n'] ++ rest).splitOn '\n' = [] :: rest.splitOn '\n' := by
    rw [List.singleton_append, List.splitOn_cons_eq_if_modifyHead, if_pos (beq_self_eq_true '\n')]
  obtain ⟨line, lines, filled⟩ := List.exists_cons_of_ne_nil (List.splitOn_ne_nil '\n' rest)
  rw [split, filled]
  cases reader with
  | opening expected =>
    rw [feed]
    split
    · next matched => simp [find?, afterAny?, matched, outlineText]
    · next unmatched =>
      rw [find?_opening, find?, afterAny?, if_neg unmatched, Option.none_or]
  | inside outline => simp [find?, feed]
  | done outline => rfl

theorem moves_advance (reader : Reader) {character : Char} (other : character ≠ '\n') :
    Moves openings context reader [character] (reader.advance character) := by
  intro rest
  obtain ⟨line, lines, split, splitFront⟩ :=
    exists_splitOn_append (fun member => other (List.mem_singleton.1 member).symm) rest
  rw [splitFront, split]
  cases reader with
  | opening expected =>
    rw [advance]
    split
    · next matched => simp [find?, afterAny?, matched, outlineText, Mark.text]
    · next unmatched => simp [find?, afterAny?, unmatched]
  | inside outline => simp [find?, advance, outlineText, Mark.text]
  | done outline => rfl

theorem moves_done (outline : List Mark) (text : List Char) :
    Moves openings context (.done outline) text (.done outline) := by
  intro rest
  obtain ⟨line, lines, split⟩ := List.exists_cons_of_ne_nil (List.splitOn_ne_nil '\n' rest)
  obtain ⟨first, others, splitWhole⟩ :=
    List.exists_cons_of_ne_nil (List.splitOn_ne_nil '\n' (text ++ rest))
  rw [split, splitWhole]
  rfl

theorem moves_foldl (reader : Reader) (text : List Char) :
    Moves openings context reader text (text.foldl (step openings) reader) := by
  -- By the characters of the text; what follows it is quantified in `Moves`, so the moves compose.
  induction text generalizing reader with
  | nil => exact .refl reader
  | cons character text ih =>
    have first : Moves openings context reader [character] (reader.step openings character) := by
      unfold step
      split
      · next isFeed => exact isFeed ▸ moves_feed reader
      · next other => exact moves_advance reader other
    exact first.trans (ih _)

theorem moves_take (reader : Reader) (text : List Char) :
    Moves openings context reader text (reader.take openings text) := by
  cases reader with
  | done outline => exact moves_done outline text
  | opening expected => exact moves_foldl (.opening expected) text
  | inside outline => exact moves_foldl (.inside outline) text

theorem moves_takeValue {reader next : Reader} {name : String}
    (whole : '\n' ∉ (shown context name).toList) (taken : reader.takeValue name = some next) :
    Moves openings context reader (shown context name).toList next := by
  intro rest
  obtain ⟨line, lines, split, splitFront⟩ := exists_splitOn_append whole rest
  rw [splitFront, split]
  cases reader with
  | opening expected =>
    rw [takeValue] at taken
    split at taken
    · next matched =>
      cases taken
      cases front : (shown context name).toList ++ line <;>
        simp [find?, afterAny?, matched, front]
    · split at taken
      · next nothing =>
        cases taken
        simp [find?, nothing, afterAny?_nil]
      · cases taken
  | inside outline =>
    cases taken
    simp [find?]
  | done outline =>
    cases taken
    rfl

/-! ## Import lines -/

theorem moves_importLine {name : String} (apart : isEnded openings = false ∧ behind 'u' openings = [])
    (whole : '\n' ∉ name.toList) :
    Moves openings context (.opening openings) (importLine name).toList (.opening []) := by
  intro rest
  have line_eq : (importLine name).toList = 'u' :: ("se ".toList ++ name.toList ++ [';']) := by
    simp [importLine, String.toList_append]
  have wholeLine : '\n' ∉ (importLine name).toList := by
    simp [line_eq, whole]
  obtain ⟨line, lines, split, splitFront⟩ := exists_splitOn_append wholeLine rest
  rw [splitFront, split, line_eq, List.cons_append, find?, find?, afterAny?,
    if_neg (Bool.eq_false_iff.1 apart.1), apart.2, afterAny?_nil, afterAny?_nil]

theorem moves_importLines {names : List String} (filled : names ≠ [])
    (apart : isEnded openings = false ∧ behind 'u' openings = [])
    (whole : ∀ name ∈ names, '\n' ∉ name.toList) :
    Moves openings context (.opening openings) ("\n".intercalate (names.map importLine)).toList
      (.opening []) := by
  induction names with
  | nil => exact absurd rfl filled
  | cons name names ih =>
    -- The first line leaves nothing expected; the feed behind it has the openings expected again.
    obtain ⟨wholeFirst, wholeRest⟩ := List.forall_mem_cons.1 whole
    have firstLine : Moves openings context (.opening openings) (importLine name).toList
        (.opening []) :=
      moves_importLine apart wholeFirst
    cases names with
    | nil =>
      rw [List.map_singleton, String.toList_intercalate, List.map_singleton,
        List.intercalate_singleton]
      exact firstLine
    | cons second names =>
      have others := ih (List.cons_ne_nil _ _) wholeRest
      rw [String.toList_intercalate] at others ⊢
      rw [List.map_cons, List.map_cons, List.map_cons, List.map_cons, List.intercalate_cons_cons]
      exact (firstLine.trans (moves_feed _)).trans others

end Reader

/-! ## Templates -/

mutual

def scanPiece (openings : List (List Char)) (values imports : List String) (reader : Reader) :
    Piece → Option Reader
  | .rows rows => some (reader.take openings (rows.flatMap fun row => row.toList ++ ['\n']))
  | .text content => some (reader.take openings content.toList)
  | .value name => if reader.isDone ∨ name ∈ values then reader.takeValue name else none
  | .imports name => if reader.isDone ∨ name ∈ imports then reader.takeImports openings else none
  | .choice _ holding otherwise =>
    (scanPieces openings values imports reader holding).filter fun next =>
      scanPieces openings values imports reader otherwise = some next

/-- Where the text of a template brings a reader, if that does not depend on its choices and values. -/
def scanPieces (openings : List (List Char)) (values imports : List String) (reader : Reader) :
    List Piece → Option Reader
  | [] => some reader
  | piece :: pieces =>
    (scanPiece openings values imports reader piece).bind fun next =>
      scanPieces openings values imports next pieces

end

/-- Whether the values of some variables break no line, and those of some others are names to import
that break none. -/
structure Plain (context : Fields) (values imports : List String) : Prop where
  whole : ∀ name ∈ values, ∃ value, context.get? name = some value ∧ '\n' ∉ value.display.toList
  listed : ∀ name ∈ imports, ∃ names, context.get? name = some (.list (names.map .text)) ∧
    names ≠ [] ∧ ∀ listed ∈ names, '\n' ∉ listed.toList

theorem Plain.mono {context : Fields} {values imports fewerValues fewerImports : List String}
    (plain : Plain context values imports) (values_subset : fewerValues ⊆ values)
    (imports_subset : fewerImports ⊆ imports) : Plain context fewerValues fewerImports where
  whole name member := plain.whole name (values_subset member)
  listed name member := plain.listed name (imports_subset member)

variable {openings : List (List Char)} {values imports : List String} {context : Fields}

theorem moves_value (plain : Plain context values imports) {reader next : Reader}
    {name text : String} (scanned : scanPiece openings values imports reader (.value name) = some next)
    (rendered : renderPiece context (.value name) = .ok text) :
    reader.Moves openings context text.toList next := by
  rw [scanPiece] at scanned
  split at scanned
  · next allowed =>
    rcases allowed with isDone | member
    · cases reader with
      | done outline =>
        cases scanned
        exact Reader.moves_done outline text.toList
      | opening => cases isDone
      | inside => cases isDone
    · obtain ⟨value, found, whole⟩ := plain.whole name member
      have shown_eq : shown context name = value.display := by
        rw [shown, found, Option.getD_some]
      rw [renderPiece_value_of_get? found] at rendered
      cases rendered
      rw [← shown_eq] at whole ⊢
      exact Reader.moves_takeValue whole scanned
  · cases scanned

theorem moves_imports (plain : Plain context values imports) {reader next : Reader}
    {name text : String}
    (scanned : scanPiece openings values imports reader (.imports name) = some next)
    (rendered : renderPiece context (.imports name) = .ok text) :
    reader.Moves openings context text.toList next := by
  rw [scanPiece] at scanned
  split at scanned
  · next allowed =>
    cases reader with
    | done outline =>
      cases scanned
      exact Reader.moves_done outline text.toList
    | opening expected =>
      obtain ⟨names, found, filled, whole⟩ := plain.listed name (allowed.resolve_left nofun)
      rw [renderPiece_imports_of_get? found] at rendered
      cases rendered
      rw [Reader.takeImports] at scanned
      split at scanned
      · next apart =>
        obtain ⟨rfl, apart⟩ := apart
        cases scanned
        exact Reader.moves_importLines filled apart whole
      · cases scanned
    | inside => cases scanned
  · cases scanned

mutual

theorem moves_scanPiece (plain : Plain context values imports) :
    ∀ (piece : Piece) {reader next : Reader} {text : String},
      scanPiece openings values imports reader piece = some next →
      renderPiece context piece = .ok text → reader.Moves openings context text.toList next
  | .rows rows, reader, next, text, scanned, rendered => by
    have text_eq : (String.join (rows.map row)).toList =
        rows.flatMap fun row => row.toList ++ ['\n'] := by
      simp [String.toList_join, List.flatMap_map, row, String.toList_append]
    rw [renderPiece] at rendered
    rw [scanPiece] at scanned
    cases rendered
    cases scanned
    rw [text_eq]
    exact Reader.moves_take reader _
  | .text content, reader, next, text, scanned, rendered => by
    rw [renderPiece] at rendered
    rw [scanPiece] at scanned
    cases rendered
    cases scanned
    exact Reader.moves_take reader _
  | .value name, _, _, _, scanned, rendered => moves_value plain scanned rendered
  | .imports name, _, _, _, scanned, rendered => moves_imports plain scanned rendered
  | .choice condition holding otherwise, reader, next, text, scanned, rendered => by
    rw [scanPiece] at scanned
    obtain ⟨scannedHolding, scannedOtherwise⟩ := Option.filter_eq_some_iff.1 scanned
    rw [renderPiece] at rendered
    cases met : isMet context condition with
    | error fault =>
      rw [met] at rendered
      cases rendered
    | ok holds =>
      rw [met] at rendered
      -- Whichever way is taken, the scan of it ends at `next`.
      cases holds with
      | true => exact moves_scanPieces plain holding scannedHolding rendered
      | false => exact moves_scanPieces plain otherwise (of_decide_eq_true scannedOtherwise) rendered

theorem moves_scanPieces (plain : Plain context values imports) :
    ∀ (pieces : List Piece) {reader next : Reader} {text : String},
      scanPieces openings values imports reader pieces = some next →
      renderPieces context pieces = .ok text → reader.Moves openings context text.toList next
  | [], reader, next, text, scanned, rendered => by
    cases scanned
    cases rendered
    exact .refl reader
  | piece :: pieces, reader, next, text, scanned, rendered => by
    rw [scanPieces] at scanned
    obtain ⟨middle, scannedFirst, scannedRest⟩ := Option.bind_eq_some_iff.1 scanned
    rw [renderPieces] at rendered
    cases first : renderPiece context piece with
    | error fault =>
      rw [first] at rendered
      cases rendered
    | ok front =>
      cases rest : renderPieces context pieces with
      | error fault =>
        rw [first, rest] at rendered
        cases rendered
      | ok back =>
        rw [first, rest] at rendered
        cases rendered
        rw [String.toList_append]
        exact (moves_scanPiece plain piece scannedFirst first).trans
          (moves_scanPieces plain pieces scannedRest rest)

end

/-- The line that is looked for in the text of a template is the one that the template brings a reader
to. -/
theorem lineAfter?_of_scanPieces (plain : Plain context values imports) {template : Template}
    {reader : Reader} {text : String}
    (scanned : scanPieces openings values imports (.opening openings) template = some reader)
    (rendered : template.render context = .ok text) :
    lineAfter? openings text.toList = reader.find? openings context [[]] := by
  have moved := moves_scanPieces plain template scanned rendered []
  rwa [List.append_nil, List.splitOn_nil, Reader.find?_opening] at moved

end Template

end Scaffold
