import Mathlib.Data.List.Infix
import Scaffold.Proofs.Text.LetterCase

/-!
# Marks in a text

What patterns of a table begin in a text, from place to place. The marks of two texts in sequence are
those of the first and those of the second, unless a pattern begins in the first and goes on in the
second.
-/

set_option autoImplicit false

namespace Scaffold.Text

variable {α : Type}

/-- Patterns with what they stand for. -/
abbrev MarkTable (α : Type) := List (List Char × α)

/-- What the first pattern of a table that begins here stands for. -/
def mark? (table : MarkTable α) (text : List Char) : Option α :=
  (table.find? fun entry => entry.1.isPrefixOf text).map Prod.snd

/-- What the patterns stand for that begin in a text, in order. -/
def marks (table : MarkTable α) : List Char → List α
  | [] => []
  | character :: text => (mark? table (character :: text)).toList ++ marks table text

variable {table : MarkTable α} {pattern front back text : List Char} {mark : α}

/-- Whether no pattern begins in a text and goes on in what follows it. -/
def Apart (pattern front back : List Char) : Prop :=
  ∀ start rest, pattern = start ++ rest → start ≠ [] → rest ≠ [] → start <:+ front → ¬rest <+: back

namespace Apart

theorem of_suffix {fuller : List Char} (apart : Apart pattern fuller back) (among : front <:+ fuller) :
    Apart pattern front back :=
  fun start rest split begun more ends => apart start rest split begun more (ends.trans among)

/-- What begins in a text that is not empty does so whatever follows. -/
theorem isPrefix_append_iff (apart : Apart pattern front back) (filled : front ≠ []) :
    pattern <+: front ++ back ↔ pattern <+: front := by
  constructor
  · intro begins
    rcases List.prefix_or_prefix_of_prefix begins (List.prefix_append front back) with
      inFront | beyond
    · exact inFront
    · obtain ⟨rest, rfl⟩ := beyond
      rcases eq_or_ne rest [] with rfl | more
      · rw [List.append_nil]
      · exact absurd ((List.prefix_append_right_inj front).1 begins)
          (apart front rest rfl filled more (List.suffix_refl front))
  · intro begins
    exact begins.trans (List.prefix_append front back)

end Apart

theorem mark?_append (apart : ∀ entry ∈ table, Apart entry.1 front back) (filled : front ≠ []) :
    mark? table (front ++ back) = mark? table front := by
  unfold mark?
  congr 1
  induction table with
  | nil => rfl
  | cons entry table ih =>
    have same : entry.1.isPrefixOf (front ++ back) = entry.1.isPrefixOf front := by
      rw [Bool.eq_iff_iff, List.isPrefixOf_iff_prefix, List.isPrefixOf_iff_prefix]
      exact (apart entry List.mem_cons_self).isPrefix_append_iff filled
    rw [List.find?_cons, List.find?_cons, same,
      ih fun other member => apart other (List.mem_cons_of_mem entry member)]

/-- The marks of a text and of what follows it stand in sequence. -/
theorem marks_append (apart : ∀ entry ∈ table, Apart entry.1 front back) :
    marks table (front ++ back) = marks table front ++ marks table back := by
  induction front with
  | nil => rfl
  | cons character front ih =>
    have below : marks table (front ++ back) = marks table front ++ marks table back :=
      ih fun entry member => (apart entry member).of_suffix (List.suffix_cons character front)
    have here : mark? table (character :: (front ++ back)) = mark? table (character :: front) :=
      mark?_append apart (List.cons_ne_nil character front)
    rw [List.cons_append, marks, marks, here, below, List.append_assoc]

theorem begins_of_find? {entry : List Char × α}
    (found : (table.find? fun entry => entry.1.isPrefixOf text) = some entry) :
    entry.1 <+: text := by
  have tested := List.find?_some found
  exact List.isPrefixOf_iff_prefix.1 tested

/-- Some pattern of a table is marked wherever one of its patterns stands: the same one, or one that it
begins like. -/
theorem exists_mark_of_isInfix {entry : List Char × α} (listed : entry ∈ table) (filled : entry.1 ≠ [])
    (stands : entry.1 <:+: text) :
    ∃ other ∈ table, (other.1 <+: entry.1 ∨ entry.1 <+: other.1) ∧ other.2 ∈ marks table text := by
  induction text with
  | nil => exact absurd (List.infix_nil.1 stands) filled
  | cons character text ih =>
    rcases List.infix_cons_iff.1 stands with begins | below
    · have found : (table.find? fun entry => entry.1.isPrefixOf (character :: text)).isSome := by
        rw [List.find?_isSome]
        exact ⟨entry, listed, List.isPrefixOf_iff_prefix.2 begins⟩
      obtain ⟨other, found⟩ := Option.isSome_iff_exists.1 found
      have alsoBegins := begins_of_find? found
      refine ⟨other, List.mem_of_find?_eq_some found,
        List.prefix_or_prefix_of_prefix alsoBegins begins, ?_⟩
      rw [marks, mark?, found]
      exact List.mem_append_left _ (List.mem_singleton_self _)
    · obtain ⟨other, among, alike, marked⟩ := ih below
      exact ⟨other, among, alike, List.mem_append_right _ marked⟩

/-- What is marked in a text is a pattern that stands in it. -/
theorem exists_isInfix_of_mem_marks (marked : mark ∈ marks table text) :
    ∃ entry ∈ table, entry.2 = mark ∧ entry.1 <:+: text := by
  induction text with
  | nil => cases marked
  | cons character text ih =>
    rw [marks] at marked
    rcases List.mem_append.1 marked with here | below
    · rw [Option.mem_toList, mark?] at here
      obtain ⟨entry, found, same⟩ := Option.map_eq_some_iff.1 here
      exact ⟨entry, List.mem_of_find?_eq_some found, same, (begins_of_find? found).isInfix⟩
    · obtain ⟨entry, among, same, stands⟩ := ih below
      exact ⟨entry, among, same, stands.trans (List.suffix_cons character text).isInfix⟩

/-! ## Marks by codes -/

/-- Whether a text begins with a pattern, told by the codes of the characters. Codes are compared much
faster than characters where a long fixed text is gone through. -/
def begins : List Char → List Char → Bool
  | [], _ => true
  | _ :: _, [] => false
  | expected :: pattern, character :: text =>
    expected.toNat.beq character.toNat && begins pattern text

theorem begins_eq (pattern text : List Char) : begins pattern text = pattern.isPrefixOf text := by
  induction pattern generalizing text with
  | nil => rfl
  | cons expected pattern ih =>
    cases text with
    | nil => rfl
    | cons character text =>
      have same : expected.toNat.beq character.toNat = (expected == character) := by
        rw [Bool.eq_iff_iff, Nat.beq_eq, beq_iff_eq, Char.toNat_inj]
      rw [begins, List.isPrefixOf_cons_cons, ih, same]

/-- The number whose bits are at the codes of the characters that patterns begin with. -/
def startBits (table : MarkTable α) : Nat :=
  bitsOf (table.filterMap fun entry => entry.1.head?.map Char.toNat)

/-- The marks of a text. Patterns are only tried where one begins with the character. -/
def codedMarks (table : MarkTable α) : List Char → List α
  | [] => []
  | character :: text =>
    if (startBits table).testBit character.toNat then
      ((table.find? fun entry => begins entry.1 (character :: text)).map Prod.snd).toList ++
        codedMarks table text
    else codedMarks table text

theorem mark?_eq_none {character : Char} (filled : ∀ entry ∈ table, entry.1 ≠ [])
    (unstarted : (startBits table).testBit character.toNat = false) :
    mark? table (character :: text) = none := by
  rw [mark?, Option.map_eq_none_iff, List.find?_eq_none]
  intro entry listed begun
  rw [startBits, testBit_bitsOf, decide_eq_false_iff_not] at unstarted
  refine unstarted (List.mem_filterMap.2 ⟨entry, listed, ?_⟩)
  obtain ⟨first, pattern, split⟩ := List.exists_cons_of_ne_nil (filled entry listed)
  rw [List.isPrefixOf_iff_prefix, split] at begun
  rw [split, List.head?_cons, (List.cons_prefix_cons.1 begun).1, Option.map_some]

theorem codedMarks_eq (filled : ∀ entry ∈ table, entry.1 ≠ []) (text : List Char) :
    codedMarks table text = marks table text := by
  induction text with
  | nil => rfl
  | cons character text ih =>
    rw [codedMarks, marks, ih]
    split
    · rw [mark?]
      simp only [begins_eq]
    · next unstarted =>
      rw [mark?_eq_none filled (Bool.eq_false_iff.2 unstarted)]
      rfl

/-! ## Texts that no pattern goes on in -/

/-- The ways to split a text into two that are not empty. -/
def splits : List Char → List (List Char × List Char)
  | [] => []
  | [_] => []
  | first :: second :: text => ([first], second :: text) ::
      (splits (second :: text)).map fun split => (first :: split.1, split.2)

theorem mem_splits {start rest : List Char} (begun : start ≠ []) (more : rest ≠ []) :
    (start, rest) ∈ splits (start ++ rest) := by
  induction start with
  | nil => exact absurd rfl begun
  | cons first start ih =>
    cases start with
    | nil =>
      cases rest with
      | nil => exact absurd rfl more
      | cons second rest => exact List.mem_cons_self
    | cons second start =>
      refine List.mem_cons_of_mem _ (List.mem_map.2 ⟨_, ih (List.cons_ne_nil _ _), rfl⟩)

/-- Whether no proper beginning of a pattern ends a text. -/
def closes (front pattern : List Char) : Bool :=
  (splits pattern).all fun split => !begins split.1.reverse front.reverse

/-- Whether no pattern can go on in a text after one of some characters. -/
def opens (allowed : Char → Bool) (back pattern : List Char) : Bool :=
  (splits pattern).all fun split =>
    !begins split.2 back && !begins back split.2 ||
      split.1.any fun character => !allowed character

theorem apart_of_closes (closed : closes front pattern = true) : Apart pattern front back := by
  intro start rest split begun more ends
  subst split
  have checked := List.all_eq_true.1 closed _ (mem_splits begun more)
  rw [begins_eq, List.isPrefixOf_iff_prefix.2 (List.reverse_prefix.2 ends)] at checked
  cases checked

theorem apart_of_opens {allowed : Char → Bool} {next : List Char}
    (opened : opens allowed next pattern = true) (only : ∀ character ∈ front, allowed character) :
    Apart pattern front (next ++ back) := by
  intro start rest split begun more ends continues
  subst split
  have checked := List.all_eq_true.1 opened _ (mem_splits begun more)
  rw [begins_eq, begins_eq] at checked
  rcases Bool.or_eq_true_iff.1 checked with incompatible | other
  · rcases List.prefix_or_prefix_of_prefix continues (List.prefix_append next back) with
      inside | beyond
    · rw [List.isPrefixOf_iff_prefix.2 inside] at incompatible
      cases incompatible
    · rw [List.isPrefixOf_iff_prefix.2 beyond, Bool.not_true, Bool.and_false] at incompatible
      cases incompatible
  · obtain ⟨character, among, foreign⟩ := List.any_eq_true.1 other
    rw [only character (ends.subset among)] at foreign
    cases foreign

end Scaffold.Text
