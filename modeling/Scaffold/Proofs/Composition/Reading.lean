import Scaffold.Proofs.Composition.Document
import Scaffold.Proofs.Text.Lines

/-!
# Documents read from files

A file holds a document if the text read from it is one: the import lines are the same in both, the
last of them ends between the same characters, and the list opens and closes in the same brackets.
-/

set_option autoImplicit false

namespace Scaffold.Composition

open Text

/-! ## Import lines -/

theorem imports_feedLines (text : List Char) : imports (feedLines text) = imports text := by
  simp [imports, lines_feedLines, Function.comp_def]

theorem endsImport_read (line : Line) : endsImport line.read = endsImport line := by
  obtain ⟨body, ending⟩ := line
  by_cases returns : ending = ['\r', '\n'] ∨ ending = ['\r']
  · rcases returns with rfl | rfl <;> rfl
  · rw [Line.read, if_neg returns]

private theorem importsEndFrom_map_read_eq_none {start : Nat} (newStart : Nat) {pieces : List Line}
    (none : importsEndFrom start pieces = none) :
    importsEndFrom newStart (pieces.map Line.read) = .none := by
  induction pieces generalizing start newStart with
  | nil => rfl
  | cons line lines ih =>
    rw [importsEndFrom] at none
    rw [List.map_cons, importsEndFrom]
    cases later : importsEndFrom (start + line.toList.length) lines with
    | some finish => simp [later] at none
    | none =>
      simp only [later] at none
      simp only [ih (newStart + line.read.toList.length) later, endsImport_read]
      by_cases ends : endsImport line = true
      · simp [ends] at none
      · rw [if_neg ends]

private theorem exists_of_importsEndFrom {start finish : Nat} (newStart : Nat) {pieces : List Line}
    (found : importsEndFrom start pieces = some finish) :
    ∃ above below, pieces = above ++ below ∧ start + (joinLines above).length = finish ∧
      importsEndFrom newStart (pieces.map Line.read) =
        some (newStart + (joinLines (above.map Line.read)).length) := by
  induction pieces generalizing start newStart finish with
  | nil => cases found
  | cons line lines ih =>
    rw [importsEndFrom] at found
    rw [List.map_cons, importsEndFrom]
    cases later : importsEndFrom (start + line.toList.length) lines with
    | some position =>
      simp only [later, Option.some.injEq] at found
      subst found
      obtain ⟨above, below, rfl, finish_eq, read⟩ := ih (newStart + line.read.toList.length) later
      refine ⟨line :: above, below, rfl, ?_, ?_⟩
      · rw [joinLines_cons, List.length_append, ← Nat.add_assoc, finish_eq]
      · simp only [read, List.map_cons, joinLines_cons, List.length_append, Nat.add_assoc]
    | none =>
      simp only [later] at found
      by_cases ends : endsImport line = true
      · rw [if_pos ends, Option.some.injEq] at found
        refine ⟨[line], lines, rfl, by simpa using found, ?_⟩
        simp [importsEndFrom_map_read_eq_none _ later, endsImport_read, ends]
      · simp [ends] at found

theorem importsEnd?_feedLines {upper lower : List Char}
    (found : importsEnd? (upper ++ lower) = some upper.length) :
    importsEnd? (feedLines (upper ++ lower)) = some (feedLines upper).length := by
  obtain ⟨above, below, lines_eq, length_eq, read⟩ := exists_of_importsEndFrom 0 found
  have areLines := areLines_lines (upper ++ lower)
  have whole := joinLines_lines (upper ++ lower)
  rw [lines_eq] at areLines whole
  rw [joinLines_append] at whole
  rw [Nat.zero_add] at length_eq read
  obtain ⟨upper_eq, -⟩ := List.append_inj whole length_eq
  have areAbove : AreLines above := by
    cases below with
    | nil => rwa [List.append_nil] at areLines
    | cons first below =>
      have cut := areLines.replace (List.cons_ne_nil first below) .nil (by simp)
      rwa [List.append_nil] at cut
  rw [importsEnd?, lines_feedLines, read, areAbove.joinLines_read, upper_eq]

/-! ## The list -/

theorem trimLeft_feedLines (text : List Char) :
    trimLeft (feedLines text) = feedLines (trimLeft text) := by
  have feed : isBlank '\n' = true := by decide
  have ret : isBlank '\r' = true := by decide
  fun_induction feedLines text with
  | case1 => rfl
  | case2 rest ih =>
    simp only [trimLeft, List.dropWhile_cons, feed, ret, if_true] at ih ⊢
    exact ih
  | case3 character rest alone ih =>
    by_cases blank : isBlank character = true
    · have blankRead : isBlank (if character = '\r' then '\n' else character) = true := by
        split
        · exact feed
        · exact blank
      simp only [trimLeft, List.dropWhile_cons, blank, blankRead, if_true] at ih ⊢
      exact ih
    · have other : character ≠ '\r' := by
        rintro rfl
        exact blank ret
      simp [trimLeft, other, blank, feedLines_cons alone]

theorem after?_feedLines {pattern : List Char}
    (plain : ∀ character ∈ pattern, character ≠ '\r' ∧ character ≠ '\n') (text : List Char) :
    after? pattern (feedLines text) = (after? pattern text).map feedLines := by
  induction pattern generalizing text with
  | nil => rfl
  | cons expected pattern ih =>
    obtain ⟨⟨notReturn, notFeed⟩, plainRest⟩ := List.forall_mem_cons.1 plain
    fun_cases feedLines text with
    | case1 => rfl
    | case2 rest => simp [after?, notReturn, notFeed]
    | case3 character rest alone =>
      by_cases isReturn : character = '\r'
      · simp [after?, isReturn, notReturn, notFeed]
      · by_cases same : expected = character
        · simp [after?, isReturn, same, ih plainRest]
        · simp [after?, isReturn, same]

theorem afterOpening?_feedLines (text : List Char) :
    afterOpening? (feedLines text) = (afterOpening? text).map feedLines := by
  have word := @after?_feedLines listMark (List.all_iff_forall_prop.1 (by decide))
  have colon := @after?_feedLines [':'] (List.all_iff_forall_prop.1 (by decide))
  have bracket := @after?_feedLines ['['] (List.all_iff_forall_prop.1 (by decide))
  unfold afterOpening?
  rw [word]
  cases after? listMark text with
  | none => rfl
  | some afterWord =>
    simp only [Option.map_some, Option.bind_eq_bind, Option.bind_some, trimLeft_feedLines, colon]
    cases after? [':'] (trimLeft afterWord) with
    | none => rfl
    | some afterColon =>
      simp only [Option.map_some, Option.bind_some, trimLeft_feedLines, bracket]

/-- What follows the bracket that opens the list, if its opening is here and no word goes on. -/
def opened? (before : Option Char) (text : List Char) : Option (List Char) :=
  if isWordAt before then none else afterOpening? text

theorem exists_of_opened? {before : Option Char} {text inside : List Char}
    (found : opened? before text = some inside) : ∃ mark, text = mark ++ '[' :: inside := by
  unfold opened? at found
  split at found
  · cases found
  · obtain ⟨mark, split, -⟩ := exists_of_afterOpening? found
    exact ⟨mark, split⟩

theorem opened?_feedLines {before newBefore : Option Char}
    (same : isWordAt newBefore = isWordAt before) (text : List Char) :
    opened? newBefore (feedLines text) = (opened? before text).map feedLines := by
  rw [opened?, opened?, same, afterOpening?_feedLines]
  split <;> rfl

theorem opened?_cons_eq_none {character : Char} (other : 'd' ≠ character) (before : Option Char)
    (rest : List Char) : opened? before (character :: rest) = none := by
  have word : listMark = 'd' :: "eclarations".toList := by decide
  simp [opened?, afterOpening?, word, after?, other]

theorem listStartFrom_of_opened? {before : Option Char} {text inside : List Char}
    (found : opened? before text = some inside) (start : Nat) :
    listStartFrom start before text = some (start + (text.length - inside.length)) := by
  unfold opened? at found
  cases text with
  | nil => simp [afterOpening?_nil] at found
  | cons character rest => rw [listStartFrom, found]

theorem listStartFrom_cons_of_none {before : Option Char} {character : Char} {rest : List Char}
    (none : opened? before (character :: rest) = none) (start : Nat) :
    listStartFrom start before (character :: rest) =
      listStartFrom (start + 1) (some character) rest := by
  unfold opened? at none
  rw [listStartFrom, none]

theorem lt_of_listStartFrom {start position : Nat} {before : Option Char} {text : List Char}
    (opens : listStartFrom start before text = some position) : start < position := by
  induction text generalizing start before with
  | nil => cases opens
  | cons character rest ih =>
    cases here : opened? before (character :: rest) with
    | none =>
      rw [listStartFrom_cons_of_none here] at opens
      exact Nat.lt_of_succ_lt (ih opens)
    | some inside =>
      obtain ⟨mark, split⟩ := exists_of_opened? here
      rw [listStartFrom_of_opened? here, Option.some.injEq, split] at opens
      simp only [List.length_append, List.length_cons] at opens
      omega

theorem exists_cons_of_listStartFrom {start : Nat} {before : Option Char} {character : Char}
    {text front back : List Char} (none : opened? before (character :: text) = none)
    (split : character :: text = front ++ back)
    (opens : listStartFrom start before (character :: text) = some (start + front.length)) :
    ∃ upper, front = character :: upper ∧ text = upper ++ back ∧
      listStartFrom (start + 1) (some character) text = some (start + 1 + upper.length) := by
  rw [listStartFrom_cons_of_none none] at opens
  cases front with
  | nil => exact absurd (lt_of_listStartFrom opens) (by simp)
  | cons first upper =>
    obtain ⟨rfl, rfl⟩ := List.cons_eq_cons.1 split
    refine ⟨upper, rfl, rfl, ?_⟩
    rw [opens, List.length_cons, Nat.add_right_comm, Nat.add_assoc]

/-- The list that is found in the text read from a file opens in the text that the file holds. -/
theorem exists_listStart_of_feedLines {start newStart : Nat} {before newBefore : Option Char}
    {text front back : List Char} (same : isWordAt newBefore = isWordAt before)
    (split : feedLines text = front ++ back)
    (opens : listStartFrom newStart newBefore (feedLines text) = some (newStart + front.length)) :
    ∃ upper lower, text = upper ++ lower ∧ feedLines lower = back ∧
      listStartFrom start before text = some (start + upper.length) := by
  fun_induction feedLines text generalizing start newStart before newBefore front with
  | case1 => cases opens
  | case2 rest ih =>
    have noReturn := opened?_cons_eq_none (by decide : 'd' ≠ '\r') before ('\n' :: rest)
    have noFeed := opened?_cons_eq_none (by decide : 'd' ≠ '\n')
    have plain : isWordAt (some '\n') = isWordAt (some '\n') := rfl
    obtain ⟨above, rfl, split, opens⟩ := exists_cons_of_listStartFrom (noFeed _ _) split opens
    obtain ⟨upper, lower, rfl, back_eq, found⟩ := ih plain split opens
    refine ⟨'\r' :: '\n' :: upper, lower, rfl, back_eq, ?_⟩
    rw [listStartFrom_cons_of_none noReturn, listStartFrom_cons_of_none (noFeed _ _), found]
    simp only [List.length_cons, Nat.add_assoc, Nat.add_comm upper.length]
  | case3 character rest alone ih =>
    have read := opened?_feedLines same (character :: rest)
    rw [feedLines_cons alone] at read
    cases here : opened? before (character :: rest) with
    | none =>
      rw [here, Option.map_none] at read
      have plain : isWordAt (some (if character = '\r' then '\n' else character)) =
          isWordAt (some character) := by
        by_cases isReturn : character = '\r'
        · rw [if_pos isReturn, isReturn]
          decide
        · rw [if_neg isReturn]
      obtain ⟨above, rfl, split, opens⟩ := exists_cons_of_listStartFrom read split opens
      obtain ⟨upper, lower, rfl, back_eq, found⟩ := ih plain split opens
      refine ⟨character :: upper, lower, rfl, back_eq, ?_⟩
      rw [listStartFrom_cons_of_none here, found, List.length_cons, Nat.add_right_comm,
        Nat.add_assoc]
    | some inside =>
      rw [here, Option.map_some] at read
      obtain ⟨mark, split_eq⟩ := exists_of_opened? here
      obtain ⟨markRead, splitRead⟩ := exists_of_opened? read
      rw [listStartFrom_of_opened? read, splitRead] at opens
      have whole : front ++ back = (markRead ++ ['[']) ++ feedLines inside := by
        rw [← split, splitRead, List.append_assoc, List.singleton_append]
      obtain ⟨-, rfl⟩ := List.append_inj whole (by simp at opens ⊢; omega)
      refine ⟨mark ++ ['['], inside, by rw [split_eq]; simp, rfl, ?_⟩
      rw [listStartFrom_of_opened? here, split_eq, Option.some.injEq]
      simp only [List.length_append, List.length_cons, List.length_nil]
      omega

theorem mem_feedLines {character : Char} (notReturn : character ≠ '\r')
    (notFeed : character ≠ '\n') {text : List Char} :
    character ∈ feedLines text ↔ character ∈ text := by
  fun_induction feedLines text with
  | case1 => rfl
  | case2 rest ih => simp [notReturn, notFeed, ih]
  | case3 other rest alone ih =>
    rw [List.mem_cons, List.mem_cons, ih]
    by_cases isReturn : other = '\r'
    · simp [isReturn, notReturn, notFeed]
    · rw [if_neg isReturn]

theorem exists_findList_of_feedLines {text : List Char} {list : Span}
    (found : findList (feedLines text) = .ok list) : ∃ list, findList text = .ok list := by
  obtain ⟨front, body, back, opening, split, opens, -, -⟩ := findList_eq_ok_iff.1 found
  have start : listStartFrom 0 none (feedLines text) = some (0 + front.length) := by
    have first := listStart?_eq (feedLines text)
    rw [split, opens.opening?_append, ← split] at first
    rw [Nat.zero_add]
    exact first
  obtain ⟨upper, lower, rfl, lower_eq, opensThere⟩ := exists_listStart_of_feedLines rfl split start
  rw [Nat.zero_add] at opensThere
  have closes : ']' ∈ lower := by
    rw [← mem_feedLines (by decide) (by decide), lower_eq]
    simp
  obtain ⟨inner, rest, rfl, absent⟩ := List.eq_append_cons_of_mem closes
  have finish : listEnd? (upper ++ (inner ++ ']' :: rest)) upper.length =
      some (upper.length + inner.length) := by
    rw [listEnd?, List.drop_left]
    exact findFrom_singleton_eq_some_iff.2 ⟨inner, rest, rfl, absent, rfl⟩
  refine ⟨⟨upper.length, upper.length + inner.length⟩, ?_⟩
  rw [findList, listStart?, opensThere]
  simp only [finish]

/-- A file from which a document is read holds a document. -/
theorem exists_parse_of_feedLines {text : List Char} {document : Document}
    (parsed : Document.parse (feedLines text) = .ok document) :
    ∃ document, Document.parse text = .ok document := by
  obtain ⟨-, importsFound, listFound⟩ := Document.parse_eq_ok_iff.1 parsed
  obtain ⟨list, found⟩ := exists_findList_of_feedLines listFound
  rw [findImportsEnd_eq_ok_iff] at importsFound
  cases importsEnd : importsEnd? text with
  | none =>
    rw [importsEnd?, lines_feedLines, importsEndFrom_map_read_eq_none 0 importsEnd] at importsFound
    cases importsFound
  | some position =>
    exact ⟨⟨text, position, list⟩,
      Document.parse_eq_ok_iff.2 ⟨rfl, findImportsEnd_eq_ok_iff.2 importsEnd, found⟩⟩

end Scaffold.Composition
