import Mathlib.Data.List.TakeWhile
import Scaffold.Text.Blank
import Scaffold.Text.Letters
import Scaffold.Text.Lines

/-!
# Blank characters, word characters and line ends

No word character is blank, every line end is blank, and trimming takes away exactly the blanks at
the ends of a text.
-/

set_option autoImplicit false

namespace Scaffold.Text

/-! ## Classes of characters -/

/-- What the characters of some codes have, a character with one of these codes has. -/
@[elab_as_elim]
theorem of_toNat_mem {motive : Char → Prop} {codes : List Nat} {character : Char}
    (listed : character.toNat ∈ codes) (holds : ∀ code ∈ codes, motive (Char.ofNat code)) :
    motive character := by
  have held := holds _ listed
  rwa [Char.ofNat_toNat] at held

def blankCodes : List Nat :=
  [9, 10, 11, 12, 13, 28, 29, 30, 31, 32, 0x85, 0xA0, 0x1680, 0x2000, 0x2001, 0x2002, 0x2003,
    0x2004, 0x2005, 0x2006, 0x2007, 0x2008, 0x2009, 0x200A, 0x2028, 0x2029, 0x202F, 0x205F, 0x3000]

theorem toNat_mem_blankCodes {character : Char} (blank : isBlank character = true) :
    character.toNat ∈ blankCodes := by
  simp only [isBlank, Bool.or_eq_true, Bool.and_eq_true, decide_eq_true_eq, beq_iff_eq] at blank
  simp only [blankCodes, List.mem_cons, List.not_mem_nil, or_false]
  omega

theorem isBlank_iff {character : Char} :
    isBlank character = true ↔ character.toNat ∈ blankCodes := by
  have blanks : ∀ code ∈ blankCodes, isBlank (Char.ofNat code) = true := by decide +kernel
  exact ⟨toNat_mem_blankCodes, fun listed => of_toNat_mem listed blanks⟩

theorem not_isWord_of_isBlank {character : Char} (blank : isBlank character = true) :
    isWord character = false := by
  have notWords : ∀ code ∈ blankCodes, isWord (Char.ofNat code) = false := by decide +kernel
  exact of_toNat_mem (toNat_mem_blankCodes blank) notWords

theorem not_isBlank_of_isWord {character : Char} (word : isWord character = true) :
    isBlank character = false := by
  cases blank : isBlank character with
  | false => rfl
  | true => rw [not_isWord_of_isBlank blank] at word; cases word

theorem isBlank_of_isLineEnd {character : Char} (ends : isLineEnd character = true) :
    isBlank character = true := by
  simp only [isLineEnd, isBlank, Bool.or_eq_true, Bool.and_eq_true, decide_eq_true_eq,
    beq_iff_eq] at ends ⊢
  omega

theorem not_isLineEnd_of_not_isBlank {character : Char} (inked : isBlank character = false) :
    isLineEnd character = false := by
  cases ends : isLineEnd character with
  | false => rfl
  | true => rw [isBlank_of_isLineEnd ends] at inked; cases inked

/-! ## Blank texts -/

theorem isAllBlank_iff {text : List Char} :
    isAllBlank text = true ↔ ∀ character ∈ text, isBlank character = true := by
  simp [isAllBlank]

@[simp] theorem isAllBlank_nil : isAllBlank [] = true := rfl

@[simp] theorem isAllBlank_cons (character : Char) (text : List Char) :
    isAllBlank (character :: text) = (isBlank character && isAllBlank text) := rfl

@[simp] theorem isAllBlank_append (front back : List Char) :
    isAllBlank (front ++ back) = (isAllBlank front && isAllBlank back) := by
  simp [isAllBlank]

theorem isAllBlank_indentation (text : List Char) : isAllBlank (indentation text) = true :=
  isAllBlank_iff.2 fun _ member => List.mem_takeWhile_imp member

theorem indentation_append {indent : List Char} (blank : isAllBlank indent = true)
    {character : Char} (inked : isBlank character = false) (rest : List Char) :
    indentation (indent ++ character :: rest) = indent := by
  induction indent with
  | nil => simp [indentation, inked]
  | cons first indent ih =>
    rw [isAllBlank_cons, Bool.and_eq_true] at blank
    have below : (indent ++ character :: rest).takeWhile isBlank = indent := ih blank.2
    simp [indentation, blank.1, below]

/-! ## Trimming -/

theorem trimLeft_append {leading : List Char} (blank : isAllBlank leading = true)
    (text : List Char) : trimLeft (leading ++ text) = trimLeft text := by
  induction leading with
  | nil => rfl
  | cons first leading ih =>
    rw [isAllBlank_cons, Bool.and_eq_true] at blank
    rw [List.cons_append, trimLeft, List.dropWhile_cons_of_pos blank.1]
    exact ih blank.2

theorem trimLeft_cons {character : Char} (inked : isBlank character = false)
    (text : List Char) : trimLeft (character :: text) = character :: text := by
  simp [trimLeft, inked]

theorem trimLeft_append_cons {barrier : Char} (inked : isBlank barrier = false)
    (front back : List Char) :
    trimLeft (front ++ barrier :: back) = trimLeft front ++ barrier :: back := by
  induction front with
  | nil => exact trimLeft_cons inked back
  | cons first front ih =>
    cases blank : isBlank first with
    | false => rw [List.cons_append, trimLeft_cons blank, trimLeft_cons blank, List.cons_append]
    | true =>
      have skipped (text : List Char) : trimLeft (first :: text) = trimLeft text := by
        simp [trimLeft, blank]
      rw [List.cons_append, skipped, skipped, ih]

theorem trimRight_append {trailing : List Char} (blank : isAllBlank trailing = true)
    (text : List Char) : trimRight (text ++ trailing) = trimRight text := by
  have reversed : isAllBlank trailing.reverse = true :=
    isAllBlank_iff.2 fun character member =>
      isAllBlank_iff.1 blank character (List.mem_reverse.1 member)
  have dropped := trimLeft_append reversed text.reverse
  rw [trimRight, List.reverse_append]
  exact congrArg List.reverse dropped

theorem trimRight_append_cons {barrier : Char} (inked : isBlank barrier = false)
    (front back : List Char) :
    trimRight (front ++ barrier :: back) = front ++ barrier :: trimRight back := by
  have dropped := trimLeft_append_cons inked back.reverse front.reverse
  rw [trimRight, trimRight, ← List.reverse_inj, List.reverse_reverse, List.reverse_append,
    List.reverse_append, List.reverse_cons, List.reverse_cons, List.reverse_reverse,
    List.append_assoc, List.append_assoc]
  exact dropped

@[simp] theorem trimRight_nil : trimRight [] = [] := rfl

theorem exists_trimRight_append (text : List Char) :
    ∃ trailing, text = trimRight text ++ trailing ∧ isAllBlank trailing = true := by
  refine ⟨(text.reverse.takeWhile isBlank).reverse, ?_, ?_⟩
  · rw [trimRight, ← List.reverse_append, List.takeWhile_append_dropWhile, List.reverse_reverse]
  · refine isAllBlank_iff.2 fun character member => ?_
    exact List.mem_takeWhile_imp (List.mem_reverse.1 member)

theorem getLast?_trimRight {text : List Char} {last : Char}
    (found : (trimRight text).getLast? = some last) : isBlank last = false := by
  rw [trimRight, List.getLast?_reverse] at found
  have stopped := List.head?_dropWhile_not isBlank text.reverse
  rw [found] at stopped
  exact Bool.eq_false_iff.2 fun blank => by simp [blank] at stopped

theorem trimRight_eq_nil_iff {text : List Char} :
    trimRight text = [] ↔ isAllBlank text = true := by
  rw [trimRight, List.reverse_eq_nil_iff, List.dropWhile_eq_nil_iff, isAllBlank_iff]
  simp

theorem trimRight_eq_self {text : List Char}
    (inked : ∀ last, text.getLast? = some last → isBlank last = false) :
    trimRight text = text := by
  cases reversed : text.reverse with
  | nil => simp [List.reverse_eq_nil_iff.1 reversed]
  | cons last rest =>
    have last_eq : text.getLast? = some last := by
      rw [List.getLast?_eq_head?_reverse, reversed, List.head?_cons]
    rw [trimRight, reversed, List.dropWhile_cons_of_neg (by simp [inked last last_eq]),
      ← reversed, List.reverse_reverse]

theorem trimRight_append_of_getLast? {front blanks : List Char} {last : Char}
    (ends : front.getLast? = some last) (inked : isBlank last = false)
    (blank : isAllBlank blanks = true) : trimRight (front ++ blanks) = front := by
  rw [trimRight_append blank]
  refine trimRight_eq_self fun other otherEnds => ?_
  rw [ends, Option.some.injEq] at otherEnds
  rwa [← otherEnds]

/-- What begins and ends with no blank is left when the blanks around it are trimmed away. -/
theorem trim_append {leading word trailing : List Char} (blankBefore : isAllBlank leading = true)
    (blankAfter : isAllBlank trailing = true)
    (inked : ∀ character ∈ word, isBlank character = false) :
    trim (leading ++ word ++ trailing) = word := by
  have ended : trimRight word = word :=
    trimRight_eq_self fun last found => inked last (List.mem_of_getLast? found)
  rw [trim, List.append_assoc, trimLeft_append blankBefore]
  cases word with
  | nil =>
    have empty : trimLeft trailing = [] := List.dropWhile_eq_nil_iff.2 (isAllBlank_iff.1 blankAfter)
    rw [List.nil_append, empty, trimRight_nil]
  | cons first word =>
    rw [List.cons_append, trimLeft_cons (inked first List.mem_cons_self), ← List.cons_append,
      trimRight_append blankAfter, ended]

theorem trim_eq_nil_of_isAllBlank {text : List Char} (blank : isAllBlank text = true) :
    trim text = [] := by
  simpa using @trim_append text [] [] blank isAllBlank_nil (by simp)

theorem trim_append_blank {blanks : List Char} (blank : isAllBlank blanks = true)
    (text : List Char) : trim (text ++ blanks) = trim text := by
  have skipped : blanks.dropWhile isBlank = [] :=
    List.dropWhile_eq_nil_iff.2 (isAllBlank_iff.1 blank)
  rw [trim, trim, trimLeft, trimLeft, List.dropWhile_append, skipped]
  cases text.dropWhile isBlank with
  | nil => rfl
  | cons first rest => exact trimRight_append blank (first :: rest)

end Scaffold.Text
