import Scaffold.Proofs.Composition.Editing

/-!
# Brackets in the list

The list of declarations is taken to end in the next closing bracket, whatever brackets are opened
before it. So this is the bracket that closes the list, and a new entry is put directly into the list,
exactly if no other bracket is opened there.
-/

set_option autoImplicit false

namespace Scaffold.Composition

open Text

variable {className name front body rest newBody newText inner : List Char}
  {opening importsEnd : Nat} {document : Document}

/-! ## Open brackets -/

/-- How many brackets are open after a character, if it does not close more than there are. -/
def bracketStep (depth : Nat) (character : Char) : Option Nat :=
  if character = '[' then some (depth + 1)
  else if character = ']' then if depth = 0 then none else some (depth - 1)
  else some depth

/-- How many brackets are open after a text, if nowhere in it more are closed than there are. -/
def openBrackets? (depth : Nat) (text : List Char) : Option Nat :=
  text.foldlM bracketStep depth

/-- Whether a text closes the brackets that it opens and no others. -/
def IsBalanced (text : List Char) : Prop :=
  openBrackets? 0 text = some 0

instance (text : List Char) : Decidable (IsBalanced text) :=
  inferInstanceAs (Decidable (_ = _))

theorem openBrackets?_append (depth : Nat) (front back : List Char) :
    openBrackets? depth (front ++ back) =
      (openBrackets? depth front).bind fun inside => openBrackets? inside back :=
  List.foldlM_append

/-- A text without closing brackets leaves open all that it opens. -/
theorem openBrackets?_of_closing_not_mem {text : List Char} (absent : ']' ∉ text) (depth : Nat) :
    openBrackets? depth text = some (depth + text.count '[') := by
  induction text generalizing depth with
  | nil => rfl
  | cons first text ih =>
    obtain ⟨notClosing, below⟩ := not_or.1 (List.mem_cons.not.1 absent)
    rw [openBrackets?, List.foldlM_cons]
    by_cases isOpening : first = '['
    · have step : bracketStep depth first = some (depth + 1) := if_pos isOpening
      rw [step, isOpening, List.count_cons_self, ← Nat.add_assoc, Nat.add_right_comm]
      exact ih below (depth + 1)
    · have step : bracketStep depth first = some depth := by
        rw [bracketStep, if_neg isOpening, if_neg (Ne.symm notClosing)]
      rw [step, List.count_cons_of_ne isOpening]
      exact ih below depth

theorem isBalanced_iff_of_closing_not_mem {text : List Char} (absent : ']' ∉ text) :
    IsBalanced text ↔ '[' ∉ text := by
  rw [IsBalanced, openBrackets?_of_closing_not_mem absent, Nat.zero_add, Option.some.injEq,
    List.count_eq_zero]

/-- The next closing bracket after a balanced text closes what is open there, or there is one before
it for a bracket that the text opens. -/
theorem IsBalanced.exists_next_closing (balanced : IsBalanced inner) (rest : List Char) :
    ∃ body after, inner ++ ']' :: rest = body ++ ']' :: after ∧ ']' ∉ body ∧
      (body = inner ∧ '[' ∉ body ∧ '[' ∉ inner ∨
        body.length < inner.length ∧ '[' ∈ body ∧ '[' ∈ inner) := by
  by_cases closing : ']' ∈ inner
  · obtain ⟨body, after, rfl, absent⟩ := List.eq_append_cons_of_mem closing
    have opened : '[' ∈ body := by
      by_contra notOpened
      rw [IsBalanced, openBrackets?_append, openBrackets?_of_closing_not_mem absent,
        List.count_eq_zero.2 notOpened] at balanced
      cases balanced
    refine ⟨body, after ++ ']' :: rest, by simp, absent, .inr ⟨?_, opened, ?_⟩⟩
    · rw [List.length_append, List.length_cons]
      omega
    · exact List.mem_append_left _ opened
  · have flat := (isBalanced_iff_of_closing_not_mem closing).1 balanced
    exact ⟨inner, rest, rfl, closing, .inl ⟨rfl, flat, flat⟩⟩

/-! ## The place of a new entry -/

/-- Whether a registration puts its entry into the brackets that a text opens, with another text
between them: what the old list holds, and commas and blanks. -/
structure Document.PutsEntry (document : Document) (className name front between : List Char) :
    Prop where
  text_eq : ∃ after, (document.register className name).1.text =
    front ++ (between ++ (reference name ++ after))
  bracketed : front.getLast? = some '['
  opens : IsClassName className → ∃ opening, OpensList front opening
  between_eq : ∃ separator, between = trimRight document.body ++ separator ∧
    ∀ character ∈ separator, character = ',' ∨ isBlank character = true

theorem IsSite.exists_putsEntry (site : IsSite front body rest opening importsEnd)
    (className name : List Char) :
    ∃ newFront between,
      (Document.ofParts front body (']' :: rest) importsEnd).PutsEntry className name newFront
        between := by
  obtain ⟨newBody, appended, edited⟩ := site.exists_editedFrom className name
  obtain ⟨separator, after, rfl, onlyCommas⟩ := appended.exists_eq_append
  obtain ⟨newFront, moved, newRest, text_eq, bracketed, proper⟩ := edited.exists_list site
  refine ⟨newFront, trimRight body ++ separator, ⟨after ++ moved ++ ']' :: newRest, ?_⟩, bracketed,
    fun classNamed => (proper classNamed).1,
    ⟨separator, by rw [Document.body_ofParts], onlyCommas⟩⟩
  rw [Document.text_register, text_eq]
  simp

theorem not_mem_of_commas_or_blanks {separator : List Char} {character : Char}
    (onlyCommas : ∀ character ∈ separator, character = ',' ∨ isBlank character = true)
    (notComma : character ≠ ',') (inked : isBlank character = false) : character ∉ separator := by
  intro member
  rcases onlyCommas character member with comma | blank
  · exact notComma comma
  · rw [inked] at blank
    cases blank

/-- The text above a new entry is balanced if the list opens no bracket before it is taken to end. -/
theorem Document.PutsEntry.isBalanced_iff {between : List Char}
    (puts : document.PutsEntry className name front between) (absent : ']' ∉ document.body) :
    IsBalanced between ↔ '[' ∉ document.body := by
  obtain ⟨separator, rfl, onlyCommas⟩ := puts.between_eq
  obtain ⟨trailing, body_eq, blank⟩ := exists_trimRight_append document.body
  have noOpening := not_mem_of_commas_or_blanks onlyCommas (by decide : '[' ≠ ',') (by decide)
  have noClosing := not_mem_of_commas_or_blanks onlyCommas (by decide : ']' ≠ ',') (by decide)
  have blankOpening : '[' ∉ trailing := fun member =>
    absurd (isAllBlank_iff.1 blank '[' member) (by decide)
  have filledAbsent : ']' ∉ trimRight document.body := fun member =>
    absent (body_eq ▸ List.mem_append_left _ member)
  rw [isBalanced_iff_of_closing_not_mem (by simp [filledAbsent, noClosing])]
  conv_rhs => rw [body_eq]
  simp [noOpening, blankOpening]

/-! ## Lists with brackets in them -/

/-- The list is taken to end in the next closing bracket. This is the one that closes it, and a new
entry is in no other bracket, exactly if no bracket is opened in the list. -/
theorem exists_findList_of_isBalanced {opened : List Char} (opens : OpensList opened opening)
    (balanced : IsBalanced inner) (rest : List Char) :
    (∃ finish, findList (opened ++ (inner ++ ']' :: rest)) = .ok ⟨opened.length, finish⟩ ∧
      finish ≤ (opened ++ inner).length ∧
      (finish = (opened ++ inner).length ↔ '[' ∉ inner)) ∧
    ∀ document className name,
      Document.parse (opened ++ (inner ++ ']' :: rest)) = .ok document →
        ∃ front between, document.PutsEntry className name front between ∧
          (IsBalanced between ↔ '[' ∉ inner) := by
  obtain ⟨body, after, text_eq, absent, ends⟩ := balanced.exists_next_closing rest
  rw [text_eq]
  constructor
  · refine ⟨(opened ++ body).length,
      findList_eq_ok_iff.2 ⟨opened, body, after, opening, rfl, opens, absent, rfl⟩, ?_⟩
    simp only [List.length_append]
    rcases ends with ⟨rfl, -, flat⟩ | ⟨shorter, -, nested⟩
    · exact ⟨Nat.le_refl _, iff_of_true rfl flat⟩
    · exact ⟨by omega, iff_of_false (by omega) (not_not_intro nested)⟩
  · intro document className name parsed
    have document_eq := Document.eq_ofParts_of_parse parsed opens absent
    have found := findImportsEnd_eq_ok_iff.1 (Document.parse_eq_ok_iff.1 parsed).2.1
    have site : IsSite opened body after opening document.importsEnd := ⟨opens, absent, found⟩
    obtain ⟨front, between, puts⟩ := site.exists_putsEntry className name
    rw [← document_eq] at puts
    have body_eq : document.body = body := by rw [document_eq, Document.body_ofParts]
    refine ⟨front, between, puts, (puts.isBalanced_iff (body_eq ▸ absent)).trans ?_⟩
    rw [body_eq]
    rcases ends with ⟨rfl, -, -⟩ | ⟨-, inBody, nested⟩
    · rfl
    · exact iff_of_false (not_not_intro inBody) (not_not_intro nested)

theorem exists_findList_of_one_entry :
    ∃ document,
      OpensList "use A\\B;\ndeclarations: [".toList 9 ∧ IsBalanced "B::class".toList ∧
      Document.parse "use A\\B;\ndeclarations: [B::class]".toList = .ok document ∧
      findList "use A\\B;\ndeclarations: [B::class]".toList = .ok document.list ∧
      document.list.finish = "use A\\B;\ndeclarations: [B::class".length ∧
      ∃ front between, document.PutsEntry "A\\C".toList "C".toList front between ∧
        IsBalanced between := by
  have opens : OpensList "use A\\B;\ndeclarations: [".toList 9 := by
    rw [OpensList]
    decide +kernel
  have balanced : IsBalanced "B::class".toList := by decide
  have flat : '[' ∉ "B::class".toList := by decide
  have parsed : Document.parse "use A\\B;\ndeclarations: [B::class]".toList =
      .ok ⟨"use A\\B;\ndeclarations: [B::class]".toList, 9, 24, 32⟩ := by
    decide +kernel
  obtain ⟨⟨finish, found, -, ends⟩, puts⟩ := exists_findList_of_isBalanced opens balanced []
  obtain ⟨front, between, putsEntry, direct⟩ := puts _ "A\\C".toList "C".toList parsed
  obtain rfl : finish = 32 := ends.2 flat
  exact ⟨_, opens, balanced, parsed, found, rfl, front, between, putsEntry, direct.2 flat⟩

/-- The bracket of the inner list is taken for that of the outer one. -/
theorem entry_put_into_inner_list :
    ∃ document,
      OpensList "use A\\B;\ndeclarations: [".toList 9 ∧ IsBalanced "\n    f([1]),\n".toList ∧
      Document.parse "use A\\B;\ndeclarations: [\n    f([1]),\n]\n".toList = .ok document ∧
      document.list.finish < "use A\\B;\ndeclarations: [\n    f([1]),\n".length ∧
      (document.register "A\\C".toList "C".toList).1.text =
        "use A\\B;\nuse A\\C;\ndeclarations: [".toList ++ ("\n    f([1,\n    ".toList ++
          (reference "C".toList ++ "]),\n]\n".toList)) ∧
      openBrackets? 0 "\n    f([1,\n    ".toList = some 1 := by
  refine ⟨⟨"use A\\B;\ndeclarations: [\n    f([1]),\n]\n".toList, 9, 24, 33⟩, ?_, by decide,
    by decide +kernel, by decide +kernel, by decide +kernel, by decide⟩
  rw [OpensList]
  decide +kernel

end Scaffold.Composition
