import Scaffold.Composition.Declaration
import Scaffold.Proofs.Text.Blank
import Scaffold.Proofs.Text.Search

/-!
# Where the list of declarations opens

The first opening of the list in a text does not depend on what follows its bracket, and a semicolon
before it parts it from all that stands above. This is why a class can be imported and listed
without the list being found elsewhere afterwards.
-/

set_option autoImplicit false

namespace Scaffold.Composition

open Text

/-! ## One opening -/

theorem exists_of_afterOpening? {text inside : List Char}
    (found : afterOpening? text = some inside) :
    ∃ mark, text = mark ++ '[' :: inside ∧ ':' ∈ mark := by
  unfold afterOpening? at found
  cases word : after? listMark text with
  | none => simp [word] at found
  | some afterWord =>
    cases colon : after? [':'] (trimLeft afterWord) with
    | none => simp [word, colon] at found
    | some afterColon =>
      have bracket : after? ['['] (trimLeft afterColon) = some inside := by
        simpa [word, colon] using found
      refine ⟨listMark ++ indentation afterWord ++ ':' :: indentation afterColon, ?_, by simp⟩
      have wordParts := indentation_append_trimLeft afterWord
      have colonParts := indentation_append_trimLeft afterColon
      rw [after?_eq_some_iff.1 colon] at wordParts
      rw [after?_eq_some_iff.1 bracket] at colonParts
      calc text = listMark ++ (indentation afterWord ++ ([':'] ++ afterColon)) := by
            rw [wordParts, after?_eq_some_iff.1 word]
        _ = listMark ++ (indentation afterWord ++
              ([':'] ++ (indentation afterColon ++ (['['] ++ inside)))) := by rw [colonParts]
        _ = listMark ++ indentation afterWord ++ ':' :: indentation afterColon ++
              '[' :: inside := by simp

theorem afterOpening?_nil : afterOpening? [] = none := by
  decide

def isOfOpening (character : Char) : Bool :=
  listMark.contains character || isBlank character || character == ':' || character == '['

theorem afterOpening?_append_cons {barrier : Char} (other : isOfOpening barrier = false)
    (front back : List Char) :
    afterOpening? (front ++ barrier :: back) =
      (afterOpening? front).map (· ++ barrier :: back) := by
  simp only [isOfOpening, Bool.or_eq_false_iff, beq_eq_false_iff_ne, List.contains_eq_mem,
    decide_eq_false_iff_not] at other
  obtain ⟨⟨⟨notLetter, inked⟩, notColon⟩, notBracket⟩ := other
  have colon := @after?_append_cons [':'] barrier (by simpa using notColon)
  have bracket := @after?_append_cons ['['] barrier (by simpa using notBracket)
  unfold afterOpening?
  rw [after?_append_cons notLetter]
  cases after? listMark front with
  | none => rfl
  | some afterWord =>
    simp only [Option.map_some, Option.bind_eq_bind, Option.bind_some,
      trimLeft_append_cons inked, colon]
    cases after? [':'] (trimLeft afterWord) with
    | none => rfl
    | some afterColon =>
      simp only [Option.map_some, Option.bind_some, trimLeft_append_cons inked, bracket]

theorem afterOpening?_append_bracket (front back : List Char) :
    afterOpening? (front ++ '[' :: back) =
      (afterOpening? (front ++ ['['])).map (· ++ back) := by
  have notLetter : '[' ∉ listMark := by decide
  have inked : isBlank '[' = false := by decide
  have colon := @after?_append_cons [':'] '[' (by decide)
  unfold afterOpening?
  rw [after?_append_cons notLetter, after?_append_cons notLetter]
  cases after? listMark front with
  | none => rfl
  | some afterWord =>
    simp only [Option.map_some, Option.bind_eq_bind, Option.bind_some,
      trimLeft_append_cons inked, colon]
    cases after? [':'] (trimLeft afterWord) with
    | none => rfl
    | some afterColon =>
      simp only [Option.map_some, Option.bind_some, trimLeft_append_cons inked]
      cases trimLeft afterColon with
      | nil => simp [after?]
      | cons first rest =>
        by_cases bracket : '[' = first <;> simp [after?, bracket]

/-! ## The first opening -/

/-- The position of the first opening at or after a position, and the position after its bracket. -/
def openingFrom (start : Nat) (before : Option Char) : List Char → Option (Nat × Nat)
  | [] => none
  | character :: rest =>
    match if isWordAt before then none else afterOpening? (character :: rest) with
    | some inside => some (start, start + ((character :: rest).length - inside.length))
    | none => openingFrom (start + 1) (some character) rest

def opening? (text : List Char) : Option (Nat × Nat) :=
  openingFrom 0 none text

theorem listStart?_eq (text : List Char) :
    listStart? text = (opening? text).map Prod.snd := by
  have general (start : Nat) (before : Option Char) :
      listStartFrom start before text = (openingFrom start before text).map Prod.snd := by
    induction text generalizing start before with
    | nil => rfl
    | cons character rest ih =>
      rw [listStartFrom, openingFrom]
      cases if isWordAt before then none else afterOpening? (character :: rest) with
      | none => exact ih (start + 1) (some character)
      | some inside => rfl
  exact general 0 none

private theorem openingFrom_cons_of_none {start : Nat} {before : Option Char} {character : Char}
    {rest : List Char} (none : afterOpening? (character :: rest) = none) :
    openingFrom start before (character :: rest) =
      openingFrom (start + 1) (some character) rest := by
  simp [openingFrom, none]

theorem exists_of_openingFrom {start : Nat} {before : Option Char} {text : List Char}
    {found : Nat × Nat} (opens : openingFrom start before text = some found) :
    start ≤ found.1 ∧ found.1 < found.2 ∧ ':' ∈ text ∧
      ∃ front back, text = front ++ '[' :: back ∧ found.2 = start + front.length + 1 := by
  induction text generalizing start before with
  | nil => cases opens
  | cons character rest ih =>
    rw [openingFrom] at opens
    cases here : (if isWordAt before then none else afterOpening? (character :: rest)) with
    | none =>
      rw [here] at opens
      obtain ⟨after, ordered, colon, front, back, rfl, finish⟩ := ih opens
      refine ⟨by omega, ordered, List.mem_cons_of_mem _ colon, character :: front, back, rfl, ?_⟩
      rw [finish, List.length_cons]
      omega
    | some inside =>
      rw [here] at opens
      obtain rfl := Option.some.inj opens
      have opened : afterOpening? (character :: rest) = some inside := by
        cases word : isWordAt before <;> simp [word] at here
        exact here
      obtain ⟨mark, split, colon⟩ := exists_of_afterOpening? opened
      rw [split]
      refine ⟨Nat.le_refl _, ?_, by simp [colon], mark, inside, rfl, ?_⟩ <;>
        simp only [List.length_append, List.length_cons] <;> omega

theorem openingFrom_congr {before other : Option Char} (same : isWordAt before = isWordAt other)
    (start : Nat) (text : List Char) :
    openingFrom start before text = openingFrom start other text := by
  cases text with
  | nil => rfl
  | cons character rest => rw [openingFrom, openingFrom, same]

theorem openingFrom_add (distance start : Nat) (before : Option Char) (text : List Char) :
    openingFrom (distance + start) before text =
      (openingFrom start before text).map fun found => (distance + found.1, distance + found.2) := by
  induction text generalizing start before with
  | nil => rfl
  | cons character rest ih =>
    rw [openingFrom, openingFrom]
    cases if isWordAt before then none else afterOpening? (character :: rest) with
    | none => exact ih (start + 1) (some character)
    | some inside => simp [Nat.add_assoc]

theorem openingFrom_append_cons {barrier : Char} (other : isOfOpening barrier = false)
    (start : Nat) (before : Option Char) (front back : List Char) :
    openingFrom start before (front ++ barrier :: back) =
      (openingFrom start before front).or
        (openingFrom (start + front.length + 1) (some barrier) back) := by
  induction front generalizing start before with
  | nil =>
    have none : afterOpening? (barrier :: back) = none := by
      have parted := afterOpening?_append_cons other [] back
      rwa [afterOpening?_nil] at parted
    exact openingFrom_cons_of_none none
  | cons character front ih =>
    have parted := afterOpening?_append_cons other (character :: front) back
    rw [List.cons_append] at parted ⊢
    rw [openingFrom, openingFrom, parted, ih]
    have start_eq : start + 1 + front.length + 1 = start + (character :: front).length + 1 := by
      simp only [List.length_cons]
      omega
    cases isWordAt before with
    | true => rw [if_pos rfl, if_pos rfl, start_eq]
    | false =>
      cases afterOpening? (character :: front) with
      | none => simp [start_eq]
      | some inside =>
        have length_eq : (character :: (front ++ barrier :: back)).length -
            (inside ++ barrier :: back).length = (character :: front).length - inside.length := by
          simp only [List.length_cons, List.length_append]
          omega
        simp only [Bool.false_eq_true, if_false, Option.map_some, Option.some_or, length_eq]

theorem openingFrom_append_bracket (start : Nat) (before : Option Char)
    (front back : List Char) :
    openingFrom start before (front ++ '[' :: back) =
      (openingFrom start before (front ++ ['['])).or
        (openingFrom (start + front.length + 1) (some '[') back) := by
  induction front generalizing start before with
  | nil =>
    have none (rest : List Char) : afterOpening? ('[' :: rest) = none := by
      have parted := afterOpening?_append_bracket [] rest
      have alone : afterOpening? ['['] = Option.none := by decide
      rw [List.nil_append, List.nil_append, alone] at parted
      exact parted
    rw [List.nil_append, List.nil_append, openingFrom_cons_of_none (none back),
      openingFrom_cons_of_none (none [])]
    rfl
  | cons character front ih =>
    have parted := afterOpening?_append_bracket (character :: front) back
    rw [List.cons_append, List.cons_append] at parted
    rw [List.cons_append, List.cons_append, openingFrom, openingFrom, parted, ih]
    have start_eq : start + 1 + front.length + 1 = start + (character :: front).length + 1 := by
      simp only [List.length_cons]
      omega
    cases isWordAt before with
    | true => rw [if_pos rfl, if_pos rfl, start_eq]
    | false =>
      cases afterOpening? (character :: (front ++ ['['])) with
      | none => simp [start_eq]
      | some inside =>
        have length_eq : (character :: (front ++ '[' :: back)).length -
            (inside ++ back).length =
              (character :: (front ++ ['['])).length - inside.length := by
          simp only [List.length_cons, List.length_append, List.length_nil]
          omega
        simp only [Bool.false_eq_true, if_false, Option.map_some, Option.some_or, length_eq]

/-! ## Texts that open the list -/

/-- Whether a text ends in the bracket of the first opening in it, which begins at a position. -/
def OpensList (front : List Char) (opening : Nat) : Prop :=
  opening? front = some (opening, front.length)

theorem OpensList.opening_lt {front : List Char} {opening : Nat}
    (opens : OpensList front opening) : opening < front.length :=
  (exists_of_openingFrom opens).2.1

theorem OpensList.exists_bracket {front : List Char} {opening : Nat}
    (opens : OpensList front opening) : ∃ upper, front = upper ++ ['['] := by
  obtain ⟨-, -, -, upper, back, rfl, finish⟩ := exists_of_openingFrom opens
  refine ⟨upper, ?_⟩
  simp only [List.length_append, List.length_cons] at finish
  have empty : back.length = 0 := by omega
  rw [List.length_eq_zero_iff.1 empty]

theorem OpensList.opening?_append {front : List Char} {opening : Nat}
    (opens : OpensList front opening) (back : List Char) :
    opening? (front ++ back) = some (opening, front.length) := by
  obtain ⟨upper, rfl⟩ := opens.exists_bracket
  have parted := openingFrom_append_bracket 0 none upper back
  rw [List.append_assoc, List.singleton_append, opening?, parted]
  rw [show openingFrom 0 none (upper ++ ['[']) = _ from opens, Option.some_or]

theorem exists_opensList {text : List Char} {opening start : Nat}
    (opens : opening? text = some (opening, start)) :
    ∃ front back, text = front ++ back ∧ front.length = start ∧ OpensList front opening := by
  obtain ⟨-, ordered, -, upper, back, rfl, finish⟩ := exists_of_openingFrom opens
  have length_eq : (upper ++ ['[']).length = start := by simpa using finish.symm
  refine ⟨upper ++ ['['], back, by simp, length_eq, ?_⟩
  have parted := openingFrom_append_bracket 0 none upper back
  rw [opening?, parted] at opens
  cases first : openingFrom 0 none (upper ++ ['[']) with
  | some found =>
    rw [first, Option.some_or] at opens
    rw [OpensList, opening?, first, opens, length_eq]
  | none =>
    rw [first, Option.none_or] at opens
    have later := (exists_of_openingFrom opens).1
    simp only at later finish ordered
    omega

/-! ## Texts that a semicolon ends -/

/-- Whether nothing but blanks follows the last semicolon of a text. -/
def EndsStatement (text : List Char) : Prop :=
  ∃ front blanks, text = front ++ ';' :: blanks ∧ isAllBlank blanks = true

theorem openingFrom_append_blank {blanks : List Char} (blank : isAllBlank blanks = true)
    {before : Option Char} (apart : isWordAt before = false) (start : Nat) (text : List Char) :
    openingFrom start before (blanks ++ text) =
      openingFrom (start + blanks.length) none text := by
  induction blanks generalizing start before with
  | nil => exact openingFrom_congr apart start text
  | cons first blanks ih =>
    rw [isAllBlank_cons, Bool.and_eq_true] at blank
    have none : afterOpening? (first :: (blanks ++ text)) = none := by
      cases found : afterOpening? (first :: (blanks ++ text)) with
      | none => rfl
      | some inside =>
        have begun : ∃ rest, first :: (blanks ++ text) = listMark ++ rest := by
          refine after?_isSome_iff.1 ?_
          cases word : after? listMark (first :: (blanks ++ text)) with
          | none => simp [afterOpening?, word] at found
          | some rest => rfl
        obtain ⟨rest, split⟩ := begun
        obtain rfl : first = 'd' := (List.cons.inj split).1
        exact absurd blank.1 (by decide)
    have apartBelow : isWordAt (some first) = false := not_isWord_of_isBlank blank.1
    rw [List.cons_append, openingFrom_cons_of_none none, ih blank.2 apartBelow]
    congr 1
    simp only [List.length_cons]
    omega

/-- A semicolon parts the openings above it from those below. -/
theorem EndsStatement.opening?_append {front : List Char} (ends : EndsStatement front)
    (back : List Char) :
    opening? (front ++ back) =
      (opening? front).or
        ((opening? back).map fun found => (front.length + found.1, front.length + found.2)) := by
  obtain ⟨upper, blanks, rfl, blank⟩ := ends
  have other : isOfOpening ';' = false := by decide
  have whole := openingFrom_append_cons other 0 none upper blanks
  have below : openingFrom (0 + upper.length + 1) (some ';') blanks = none := by
    have apart : isWordAt (some ';') = false := by decide
    have skipped := openingFrom_append_blank blank apart (0 + upper.length + 1) []
    rwa [List.append_nil] at skipped
  have start_eq : 0 + upper.length + 1 + blanks.length = (upper ++ ';' :: blanks).length + 0 := by
    simp only [List.length_append, List.length_cons]
    omega
  rw [below, Option.or_none] at whole
  rw [opening?, opening?, opening?, List.append_assoc, List.cons_append,
    openingFrom_append_cons other, openingFrom_append_blank blank (by decide), start_eq,
    openingFrom_add, whole]

/-- What is put above the first opening between two statements opens no list and moves the first
opening down. -/
theorem OpensList.insert {upper insertion gap : List Char} {opening : Nat}
    (opens : OpensList (upper ++ gap) opening) (late : upper.length ≤ opening)
    (ends : EndsStatement upper) (endsInsertion : EndsStatement (upper ++ insertion))
    (none : opening? insertion = none) :
    OpensList (upper ++ insertion ++ gap) (insertion.length + opening) := by
  rw [OpensList, ends.opening?_append] at opens
  have noneAbove : opening? upper = Option.none := by
    cases above : opening? upper with
    | none => rfl
    | some found =>
      rw [above, Option.some_or, Option.some.injEq] at opens
      obtain ⟨-, ordered, -, front, back, split, finish⟩ := exists_of_openingFrom above
      have length_eq := congrArg List.length split
      rw [List.length_append, List.length_cons] at length_eq
      rw [opens] at ordered finish
      simp only at ordered finish
      omega
  rw [noneAbove, Option.none_or, Option.map_eq_some_iff] at opens
  obtain ⟨found, inGap, found_eq⟩ := opens
  rw [OpensList, endsInsertion.opening?_append, ends.opening?_append, noneAbove, none, inGap]
  simp only [List.length_append, Prod.mk.injEq] at found_eq
  simp only [Option.map_none, Option.or_none, Option.none_or, Option.map_some, Option.some.injEq,
    Prod.mk.injEq, List.length_append]
  omega

theorem opening?_eq_none_of_colon_not_mem {text : List Char} (absent : ':' ∉ text) :
    opening? text = none := by
  cases found : opening? text with
  | none => rfl
  | some place => exact absurd (exists_of_openingFrom found).2.2.1 absent

end Scaffold.Composition
