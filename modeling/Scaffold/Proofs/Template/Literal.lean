import Mathlib.Data.List.Infix
import Mathlib.Tactic.MkIffOfInductiveProp
import Scaffold.Proofs.Template.Line

/-!
# Literals that a template writes

What a literal between single quotes denotes in the classes that templates write: a backslash escapes
a quote or another backslash and nothing else, and the first quote that is not escaped ends the
literal. A value that a template puts between the quotes as it is stands for itself only if it holds
nothing that is read otherwise there.
-/

set_option autoImplicit false

namespace Scaffold

namespace Text

/-- The text that a literal denotes and what follows its closing quote, read from behind the opening
one. -/
def readLiteral : List Char → Option (List Char × List Char)
  | [] => none
  | '\'' :: rest => some ([], rest)
  | '\\' :: '\\' :: rest => (readLiteral rest).map fun (text, behind) => ('\\' :: text, behind)
  | '\\' :: '\'' :: rest => (readLiteral rest).map fun (text, behind) => ('\'' :: text, behind)
  | character :: rest =>
    (readLiteral rest).map fun (text, behind) => (character :: text, behind)

/-- Whether a text is read as it is between two quotes. -/
@[mk_iff]
structure StandsForItself (text : List Char) : Prop where
  unquoted : '\'' ∉ text
  parted : ¬['\\', '\\'] <:+: text
  unended : ¬['\\'] <:+ text

instance (text : List Char) : Decidable (StandsForItself text) :=
  decidable_of_iff _ (standsForItself_iff text).symm

variable {text denoted rest behind : List Char} {character : Char}

/-- A character that is neither escaped nor escapes the next one is read as it is. -/
theorem readLiteral_cons (other : character ≠ '\'')
    (plain : character = '\\' → text.head? ≠ some '\\' ∧ text.head? ≠ some '\'') :
    readLiteral (character :: text) =
      (readLiteral text).map fun (denoted, behind) => (character :: denoted, behind) := by
  rw [readLiteral.eq_def]
  split
  · next same => cases same
  · next same =>
    cases same
    exact absurd rfl other
  · next same =>
    cases same
    exact absurd rfl (plain rfl).1
  · next same =>
    cases same
    exact absurd rfl (plain rfl).2
  · next same =>
    cases same
    rfl

theorem exists_of_map_readLiteral
    (read : ((readLiteral text).map fun (denoted, behind) => (character :: denoted, behind)) =
      some (denoted, behind)) :
    ∃ below, readLiteral text = some (below, behind) ∧ denoted = character :: below := by
  obtain ⟨⟨below, _⟩, readBelow, same⟩ := Option.map_eq_some_iff.1 read
  cases same
  exact ⟨below, readBelow, rfl⟩

theorem replicate_append_cons (count : Nat) (character : Char) (text : List Char) :
    List.replicate count character ++ character :: text =
      List.replicate (count + 1) character ++ text := by
  rw [List.replicate_succ', List.append_assoc, List.singleton_append]

/-- A literal never denotes a text that repeats it behind some more backslashes: the quote that ends
the literal would have to be one of them, or one of what they escape. -/
theorem not_prefix_of_readLiteral {ahead : Nat} (read : readLiteral text = some (denoted, behind)) :
    ¬denoted ++ ['\''] <+: List.replicate (ahead + 1) '\\' ++ text := by
  -- By the characters of the literal; an escape puts what it denotes further behind.
  induction text using readLiteral.induct generalizing denoted behind ahead with
  | case1 => cases read
  | case2 rest =>
    cases read
    intro repeats
    cases (List.cons_prefix_cons.1 repeats).1
  | case3 rest ih =>
    obtain ⟨below, readBelow, rfl⟩ := exists_of_map_readLiteral read
    intro repeats
    have repeatsBelow : below ++ ['\''] <+: List.replicate ahead '\\' ++ '\\' :: '\\' :: rest :=
      (List.cons_prefix_cons.1 repeats).2
    rw [replicate_append_cons, replicate_append_cons] at repeatsBelow
    exact ih readBelow repeatsBelow
  | case4 rest ih =>
    obtain ⟨below, -, rfl⟩ := exists_of_map_readLiteral read
    intro repeats
    cases (List.cons_prefix_cons.1 repeats).1
  | case5 character rest unquoted slash quote ih =>
    rw [readLiteral] at read
    · obtain ⟨below, readBelow, rfl⟩ := exists_of_map_readLiteral read
      intro repeats
      obtain ⟨rfl, repeatsRest⟩ := List.cons_prefix_cons.1 repeats
      have repeatsBelow : below ++ ['\''] <+: List.replicate ahead '\\' ++ '\\' :: rest :=
        repeatsRest
      rw [replicate_append_cons] at repeatsBelow
      exact ih readBelow repeatsBelow
    · exact unquoted
    · exact slash
    · exact quote

/-! ## Texts that stand for themselves -/

theorem standsForItself_nil : StandsForItself [] where
  unquoted := List.not_mem_nil
  parted := by simp
  unended := by simp

theorem standsForItself_cons_iff :
    StandsForItself (character :: text) ↔
      character ≠ '\'' ∧ (character = '\\' → text ≠ [] ∧ text.head? ≠ some '\\') ∧
        StandsForItself text := by
  have pair : ['\\', '\\'] <+: character :: text ↔
      character = '\\' ∧ text.head? = some '\\' := by
    cases text <;> simp [List.cons_prefix_cons, eq_comm]
  have last : ['\\'] = character :: text ↔ character = '\\' ∧ text = [] := by
    simp [eq_comm]
  constructor
  · intro stands
    obtain ⟨unquoted, parted, unended⟩ := stands
    rw [List.mem_cons, not_or] at unquoted
    rw [List.infix_cons_iff, not_or, pair, not_and] at parted
    rw [List.suffix_cons_iff, not_or, last, not_and] at unended
    exact ⟨Ne.symm unquoted.1, fun slash => ⟨unended.1 slash, parted.1 slash⟩, unquoted.2, parted.2,
      unended.2⟩
  · intro stands
    obtain ⟨other, plain, unquoted, parted, unended⟩ := stands
    constructor
    · rw [List.mem_cons, not_or]
      exact ⟨other.symm, unquoted⟩
    · rw [List.infix_cons_iff, not_or, pair, not_and]
      exact ⟨fun slash => (plain slash).2, parted⟩
    · rw [List.suffix_cons_iff, not_or, last, not_and]
      exact ⟨fun slash => (plain slash).1, unended⟩

theorem readLiteral_append (stands : StandsForItself text) :
    readLiteral (text ++ '\'' :: rest) = some (text, rest) := by
  induction text with
  | nil => rfl
  | cons character text ih =>
    obtain ⟨other, plain, below⟩ := standsForItself_cons_iff.1 stands
    have unescaped (slash : character = '\\') : (text ++ '\'' :: rest).head? ≠ some '\\' ∧
        (text ++ '\'' :: rest).head? ≠ some '\'' := by
      obtain ⟨filled, unpaired⟩ := plain slash
      cases text with
      | nil => exact absurd rfl filled
      | cons first text =>
        exact ⟨unpaired, fun same => below.unquoted (Option.some.inj same ▸ List.mem_cons_self)⟩
    rw [List.cons_append, readLiteral_cons other unescaped, ih below]
    rfl

theorem standsForItself_of_readLiteral
    (read : readLiteral (text ++ '\'' :: rest) = some (text, behind)) : StandsForItself text := by
  induction text with
  | nil => exact standsForItself_nil
  | cons character text ih =>
    rw [List.cons_append] at read
    have other : character ≠ '\'' := by
      intro same
      rw [same] at read
      cases read
    -- Nothing is escaped by the first character: what follows would be repeated one place too late.
    have unescaped (slash : character = '\\') : (text ++ '\'' :: rest).head? ≠ some '\\' ∧
        (text ++ '\'' :: rest).head? ≠ some '\'' := by
      subst slash
      constructor
      · intro first
        obtain ⟨text, rfl⟩ : ∃ below, text = '\\' :: below := by
          cases text with
          | nil => cases first
          | cons second text =>
            cases first
            exact ⟨text, rfl⟩
        obtain ⟨below, readBelow, same⟩ := exists_of_map_readLiteral read
        cases same
        have repeats : '\\' :: text ++ ['\''] <+: List.replicate 1 '\\' ++ (text ++ '\'' :: rest) :=
          ⟨rest, by simp⟩
        exact not_prefix_of_readLiteral readBelow repeats
      · intro first
        obtain ⟨quoted, follows⟩ := List.head?_eq_some_iff.1 first
        rw [follows] at read
        obtain ⟨below, -, same⟩ := exists_of_map_readLiteral read
        cases same
    rw [readLiteral_cons other unescaped] at read
    obtain ⟨below, readBelow, same⟩ := exists_of_map_readLiteral read
    cases same
    refine standsForItself_cons_iff.2 ⟨other, fun slash => ?_, ih readBelow⟩
    obtain ⟨unpaired, unquoted⟩ := unescaped slash
    cases text with
    | nil => exact absurd rfl unquoted
    | cons first text => exact ⟨List.cons_ne_nil _ _, unpaired⟩

/-- A text that is put between quotes is what the literal denotes exactly if it stands for itself. -/
theorem exists_readLiteral_append_iff :
    (∃ behind, readLiteral (text ++ '\'' :: character :: rest) =
      some (text, character :: behind)) ↔ StandsForItself text := by
  constructor
  · intro denotes
    obtain ⟨behind, read⟩ := denotes
    exact standsForItself_of_readLiteral read
  · intro stands
    exact ⟨rest, readLiteral_append stands⟩

/-! ## The line of a literal -/

/-- What follows an opening in the first of some lines that begins with it, with the lines below. -/
def belowOpening? (opening : List Char) : List (List Char) → Option (List Char)
  | [] => none
  | line :: lines =>
    match after? opening line with
    | some rest => some (['\n'].intercalate (rest :: lines))
    | none => belowOpening? opening lines

variable {opening above : List Char} {lines : List (List Char)}

theorem belowOpening?_append (absent : ∀ line ∈ lines, ¬opening <+: line)
    (below : List (List Char)) :
    belowOpening? opening (lines ++ below) = belowOpening? opening below := by
  induction lines with
  | nil => rfl
  | cons line lines ih =>
    obtain ⟨absentHere, absentBelow⟩ := List.forall_mem_cons.1 absent
    have unread : after? opening line = none := by
      rw [← Option.not_isSome_iff_eq_none, after?_isSome_iff]
      intro begins
      obtain ⟨rest, rfl⟩ := begins
      exact absentHere (List.prefix_append opening rest)
    rw [List.cons_append, belowOpening?, unread]
    exact ih absentBelow

theorem belowOpening?_splitOn (whole : '\n' ∉ opening) (rest : List Char) :
    belowOpening? opening ((opening ++ rest).splitOn '\n') = some rest := by
  obtain ⟨line, lines, split, splitFront⟩ := exists_splitOn_append whole rest
  have read : after? opening (opening ++ line) = some line := after?_eq_some_iff.2 rfl
  have joined : ['\n'].intercalate (line :: lines) = rest := by
    rw [← split]
    exact List.intercalate_splitOn '\n'
  rw [splitFront, belowOpening?, read]
  exact congrArg some joined

end Text

namespace Template

open Text

variable {context : Fields} {front back : List Piece} {text opening closing row name : String}
  {value : Value} {values imports : List String}

/-- Where a template writes a line that begins with an opening, and none above does, the value of a
variable follows the opening. -/
theorem exists_belowOpening (plain : Plain context values imports)
    (filled : opening.toList ≠ []) (whole : '\n' ∉ opening.toList)
    (found : context.get? name = some value)
    (scanned : scanPieces [opening.toList] values imports (.opening [opening.toList])
      (front ++ [.rows [row]]) = some (.opening [opening.toList]))
    (rendered : renderPieces context
      ((front ++ [.rows [row]]) ++ .text opening :: .value name :: .text closing :: back) =
        .ok text) :
    ∃ below, belowOpening? opening.toList (text.toList.splitOn '\n') =
      some (value.display.toList ++ (closing.toList ++ below)) := by
  obtain ⟨above, rest, renderedAbove, renderedRest, rfl⟩ := exists_of_renderPieces_append rendered
  obtain ⟨start, last, -, renderedLast, rfl⟩ := exists_of_renderPieces_append renderedAbove
  -- The opening, the value and the closing stand at the start of what follows the row.
  obtain ⟨first, fromValue, renderedFirst, renderedFromValue, rfl⟩ :=
    exists_of_renderPieces_cons renderedRest
  obtain ⟨second, fromClosing, renderedSecond, renderedFromClosing, rfl⟩ :=
    exists_of_renderPieces_cons renderedFromValue
  obtain ⟨third, below, renderedThird, -, rfl⟩ := exists_of_renderPieces_cons renderedFromClosing
  have value_eq : renderPiece context (.value name) = .ok value.display := by
    rw [renderPiece, variableOf, found]
    rfl
  cases renderedFirst
  cases value_eq.symm.trans renderedSecond
  cases renderedThird
  cases renderedLast
  have above_eq : (start ++ (String.join ([row].map Template.row) ++ "")).toList =
      (start.toList ++ row.toList) ++ ['\n'] := by
    simp [Template.row, String.toList_append]
  have absent : ∀ line ∈ (start.toList ++ row.toList).splitOn '\n', ¬opening.toList <+: line := by
    have moved := moves_scanPieces plain _ scanned renderedAbove []
    rw [List.append_nil, Reader.find?_opening, Reader.find?_opening, above_eq,
      List.splitOn_append_cons_self, List.splitOn_nil, List.findSome?_append,
      List.findSome?_singleton] at moved
    have unopened : afterAny? [opening.toList] [] = none := by
      rw [afterAny?_eq_none_iff]
      simpa using filled
    rw [unopened, Option.or_none, List.findSome?_eq_none_iff] at moved
    intro line member
    exact afterAny?_eq_none_iff.1 (moved line member) _ (List.mem_singleton_self _)
  refine ⟨below.toList, ?_⟩
  rw [String.toList_append, above_eq, List.append_assoc, List.singleton_append,
    List.splitOn_append_cons_self, belowOpening?_append absent, String.toList_append,
    String.toList_append, String.toList_append]
  exact belowOpening?_splitOn whole _

end Template

end Scaffold
