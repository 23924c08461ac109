import Scaffold.Proofs.Composition.Entry

/-!
# References to a class

A reference is looked for by the whole name of the class, so that a reference to one class is none
to another, whatever the names end in. A character that stands in no name parts the references
before it from those after it.
-/

set_option autoImplicit false

namespace Scaffold.Composition

open Text

/-- Whether a character can stand in no reference. -/
def PartsReferences (character : Char) : Prop :=
  isWord character = false ∧ character ≠ ':'

theorem partsReferences_of_isBlank {character : Char} (blank : isBlank character = true) :
    PartsReferences character := by
  refine ⟨not_isWord_of_isBlank blank, ?_⟩
  rintro rfl
  exact absurd blank (by decide)

theorem PartsReferences.not_mem_reference {name : List Char} (named : IsName name)
    {character : Char} (parts : PartsReferences character) : character ∉ reference name := by
  have inMark : ∀ other ∈ referenceMark, other = ':' ∨ isWord other = true :=
    List.all_iff_forall_prop.1 (by decide)
  rw [reference, List.mem_append, not_or]
  refine ⟨named.not_mem parts.1, fun member => ?_⟩
  rcases inMark character member with colon | word
  · exact parts.2 colon
  · rw [parts.1] at word
    cases word

theorem Appended.closing_not_mem {name body newBody : List Char} (named : IsName name)
    (appended : Appended (reference name) body newBody) (inner : ']' ∉ body) : ']' ∉ newBody := by
  have parts : PartsReferences ']' := ⟨by decide, by decide⟩
  exact appended.not_mem (by decide) (by decide) inner (parts.not_mem_reference named)

/-! ## References on the two sides of a character -/

private theorem refersFrom_congr {before other : Option Char}
    (same : isWordAt before = isWordAt other) (pattern text : List Char) :
    refersFrom pattern before text = refersFrom pattern other text := by
  cases text with
  | nil => rfl
  | cons character rest => rw [refersFrom, refersFrom, same]

private theorem refersFrom_append_cons {pattern : List Char} {barrier : Char}
    (filled : pattern ≠ []) (absent : barrier ∉ pattern) (before : Option Char)
    (front back : List Char) :
    refersFrom pattern before (front ++ barrier :: back) =
      (refersFrom pattern before front || refersFrom pattern (some barrier) back) := by
  induction front generalizing before with
  | nil =>
    have none : after? pattern (barrier :: back) = none := by
      have parted := after?_append_cons absent [] back
      cases pattern with
      | nil => exact absurd rfl filled
      | cons expected pattern => exact parted
    simp [refersFrom, none]
  | cons character front ih =>
    have parted := after?_append_cons absent (character :: front) back
    rw [List.cons_append] at parted ⊢
    rw [refersFrom, refersFrom, parted, ih, Option.isSome_map, Bool.or_assoc]

theorem refersTo_append_cons {name : List Char} (named : IsName name) {barrier : Char}
    (parts : PartsReferences barrier) (front back : List Char) :
    refersTo name (front ++ barrier :: back) = (refersTo name front || refersTo name back) := by
  have filled : reference name ≠ [] := by simp [reference, referenceMark]
  have apart : isWordAt (some barrier) = isWordAt none := parts.1
  rw [refersTo, refersFrom_append_cons filled (parts.not_mem_reference named),
    refersFrom_congr apart]
  rfl

theorem refersTo_nil (name : List Char) : refersTo name [] = false := rfl

theorem refersTo_append {name : List Char} (named : IsName name) {front : List Char}
    {last : Char} (ends : front.getLast? = some last) (parts : PartsReferences last)
    (back : List Char) :
    refersTo name (front ++ back) = (refersTo name front || refersTo name back) := by
  obtain ⟨upper, rfl⟩ := List.getLast?_eq_some_iff.1 ends
  rw [List.append_assoc, List.singleton_append, refersTo_append_cons named parts,
    refersTo_append_cons named parts, refersTo_nil, Bool.or_false]

theorem refersTo_cons {name : List Char} (named : IsName name) {first : Char}
    (parts : PartsReferences first) (text : List Char) :
    refersTo name (first :: text) = refersTo name text := by
  have parted := refersTo_append_cons named parts [] text
  rwa [List.nil_append, refersTo_nil, Bool.false_or] at parted

theorem refersTo_blank_append {name : List Char} (named : IsName name) {blanks : List Char}
    (blank : isAllBlank blanks = true) (text : List Char) :
    refersTo name (blanks ++ text) = refersTo name text := by
  induction blanks with
  | nil => rfl
  | cons first blanks ih =>
    rw [isAllBlank_cons, Bool.and_eq_true] at blank
    rw [List.cons_append, refersTo_cons named (partsReferences_of_isBlank blank.1), ih blank.2]

theorem refersTo_append_blank {name : List Char} (named : IsName name) {blanks : List Char}
    (blank : isAllBlank blanks = true) (text : List Char) :
    refersTo name (text ++ blanks) = refersTo name text := by
  cases blanks with
  | nil => rw [List.append_nil]
  | cons first blanks =>
    rw [isAllBlank_cons, Bool.and_eq_true] at blank
    have none := refersTo_blank_append named blank.2 []
    rw [List.append_nil, refersTo_nil] at none
    rw [refersTo_append_cons named (partsReferences_of_isBlank blank.1), none, Bool.or_false]

theorem refersTo_of_colon_not_mem {text : List Char} (absent : ':' ∉ text) (name : List Char) :
    refersTo name text = false := by
  have general (before : Option Char) : refersFrom (reference name) before text = false := by
    induction text generalizing before with
    | nil => rfl
    | cons character rest ih =>
      have none : after? (reference name) (character :: rest) = none := by
        cases found : after? (reference name) (character :: rest) with
        | none => rfl
        | some back =>
          refine absurd ?_ absent
          rw [after?_eq_some_iff.1 found]
          simp [reference, referenceMark]
      rw [refersFrom, none, ih fun member => absent (List.mem_cons_of_mem _ member)]
      simp
  exact general none

/-! ## References in a reference -/

private theorem eq_of_reference_begins {name other back : List Char} (named : IsName name)
    (otherNamed : IsName other) (split : reference other = reference name ++ back) :
    name = other := by
  have colonNotWord : isWord ':' = false := by decide
  have parted : other ++ ':' :: referenceMark.tail =
      name ++ ':' :: (referenceMark.tail ++ back) := by
    simpa [reference, referenceMark] using split
  exact (append_cons_inj_of_not_mem (otherNamed.not_mem colonNotWord)
    (named.not_mem colonNotWord) parted).1.symm

private theorem refersFrom_of_all_word {pattern front back : List Char} {before : Option Char}
    (word : isWordAt before = true) (words : ∀ character ∈ front, isWord character = true)
    (none : refersFrom pattern (some ':') back = false) :
    refersFrom pattern before (front ++ ':' :: back) = false := by
  induction front generalizing before with
  | nil => simp [refersFrom, word, none]
  | cons first front ih =>
    have wordFirst : isWordAt (some first) = true := words first List.mem_cons_self
    simp [refersFrom, word,
      ih wordFirst fun character member => words character (List.mem_cons_of_mem _ member)]

private theorem refersFrom_mark (name : List Char) :
    refersFrom (reference name) (some ':') referenceMark.tail = false := by
  have short : ∀ text : List Char, text.length < (reference name).length →
      (after? (reference name) text).isSome = false := by
    intro text short
    cases found : after? (reference name) text with
    | none => rfl
    | some back =>
      have length_eq := congrArg List.length (after?_eq_some_iff.1 found)
      rw [List.length_append] at length_eq
      omega
  have general (text : List Char) (before : Option Char)
      (small : text.length < (reference name).length) :
      refersFrom (reference name) before text = false := by
    induction text generalizing before with
    | nil => rfl
    | cons character rest ih =>
      rw [refersFrom, short _ small, Bool.and_false, Bool.false_or]
      exact ih _ (by simp only [List.length_cons] at small; omega)
  exact general _ _ (by simp [reference, referenceMark])

/-- A reference to a class is a reference to no other class, not even to one whose name its own
name ends in. -/
theorem refersTo_reference {name other : List Char} (named : IsName name)
    (otherNamed : IsName other) :
    refersTo name (reference other) = decide (name = other) := by
  by_cases same : name = other
  · subst same
    have here : after? (reference name) (reference name) = some [] :=
      after?_eq_some_iff.2 (List.append_nil _).symm
    cases text : reference name with
    | nil => simp [reference, referenceMark] at text
    | cons first rest =>
      rw [text] at here
      simp [refersTo, text, refersFrom, here, isWordAt]
  · cases other with
    | nil => exact absurd rfl otherNamed.1
    | cons first others =>
      have none : after? (reference name) (reference (first :: others)) = none := by
        cases found : after? (reference name) (reference (first :: others)) with
        | none => rfl
        | some back =>
          exact absurd
            (eq_of_reference_begins named otherNamed (after?_eq_some_iff.1 found)) same
      have wordFirst : isWordAt (some first) = true := otherNamed.2 first List.mem_cons_self
      have below := refersFrom_of_all_word wordFirst
        (fun character member => otherNamed.2 character (List.mem_cons_of_mem _ member))
        (refersFrom_mark name)
      have split : reference (first :: others) = first :: (others ++ ':' :: referenceMark.tail) :=
        rfl
      rw [split] at none ⊢
      simp [refersTo, refersFrom, none, below, same]

/-! ## References in a list with one entry more -/

theorem Appended.refersTo_eq {name other body newBody : List Char} (named : IsName name)
    (otherNamed : IsName other) (appended : Appended (reference other) body newBody) :
    refersTo name newBody = (refersTo name body || decide (name = other)) := by
  have comma : PartsReferences ',' := ⟨by decide, by decide⟩
  have feed : PartsReferences '\n' := ⟨by decide, by decide⟩
  have entry := refersTo_reference named otherNamed
  have none {blanks : List Char} (blank : isAllBlank blanks = true) :
      refersTo name blanks = false := by
    have appendedNone := refersTo_append_blank named blank []
    rwa [List.nil_append, refersTo_nil] at appendedNone
  cases appended with
  | first blank blankBefore blankAfter =>
    rw [List.append_assoc, List.cons_append, refersTo_cons named feed,
      refersTo_blank_append named blankBefore, refersTo_append_cons named comma,
      refersTo_cons named feed, entry, none blank, none blankAfter, Bool.or_false, Bool.false_or]
  | afterEntry _ _ _ blankBetween _ blankAfter =>
    rw [List.append_assoc, List.append_assoc, List.cons_append, refersTo_append_cons named comma,
      refersTo_blank_append named blankBetween, refersTo_append_blank named blankAfter, entry,
      refersTo_append_blank named blankAfter]
  | afterComma last blankBetween _ blankAfter =>
    rw [refersTo_append_cons named comma, List.append_assoc, refersTo_append named last comma,
      refersTo_blank_append named blankBetween, entry, none blankAfter, Bool.or_false,
      refersTo_append_blank named blankAfter]

end Scaffold.Composition
