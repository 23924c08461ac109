import Mathlib.Data.List.Basic
import Scaffold.Proofs.Composition.Frame

/-!
# Entries appended one after the other

The first entry that is appended to a list settles how the list is laid out, and the entries after it
keep to that: each stands behind the same blanks, and there is a comma after the last one if there was
one before.
-/

set_option autoImplicit false

namespace Scaffold.Composition

open Text ListFrame

/-- The text between the brackets with references to some classes appended to it one after the other. -/
def appendAll (baseIndent : List Char) (names : List (List Char)) (body : List Char) : List Char :=
  names.foldl (fun body name => appendEntry body (reference name) baseIndent) body

/-! ## What stands before each entry -/

/-- What stands before each new entry of a list that holds some. In a list without line feeds it is a
space, and else a feed with the blanks that the last line with more than blanks begins with. If the only
feeds are behind the last entry, the new ones stand one step deeper than the list. -/
inductive IsSeparatorOf (baseIndent : List Char) : List Char → List Char → Prop where
  | inline {body : List Char} : '\n' ∉ body → IsSeparatorOf baseIndent body [' ']
  | aligned {above indent rest below : List Char} {first : Char} :
      isAllBlank indent = true → isBlank first = false → '\n' ∉ indent ++ first :: rest →
      isAllBlank below = true →
      IsSeparatorOf baseIndent (above ++ '\n' :: (indent ++ first :: rest) ++ below) ('\n' :: indent)
  | stepped {filled trailing : List Char} :
      '\n' ∉ filled → '\n' ∈ trailing → isAllBlank trailing = true →
      IsSeparatorOf baseIndent (filled ++ trailing) ('\n' :: baseIndent ++ indentStep)

variable {baseIndent filled trailing separator : List Char} {last : Char}

/-- The last line of a text that ends in no blank has its indentation and then something else. -/
theorem exists_lastLine_eq (ends : filled.getLast? = some last) (inked : isBlank last = false)
    (multiline : '\n' ∈ filled) :
    ∃ above first rest,
      filled = above ++ '\n' :: (indentation (lastLine filled) ++ first :: rest) ∧
      isBlank first = false ∧ '\n' ∉ indentation (lastLine filled) ++ first :: rest := by
  obtain ⟨above, split, stops⟩ := exists_append_lastLine filled
  have whole := feed_not_mem_lastLine filled
  have fed : above.getLast? = some '\n' := by
    refine stops.resolve_left fun empty => ?_
    rw [empty, List.nil_append] at split
    exact whole (split ▸ multiline)
  obtain ⟨upper, rfl⟩ := List.getLast?_eq_some_iff.1 fed
  have divided := indentation_append_trimLeft (lastLine filled)
  cases content : trimLeft (lastLine filled) with
  | nil =>
    -- A last line of blanks alone would end the text in a blank.
    have blank : isAllBlank ('\n' :: lastLine filled) = true := by
      rw [← divided, content, List.append_nil, isAllBlank_cons, isAllBlank_indentation]
      decide
    rw [split, List.append_assoc, List.singleton_append,
      List.getLast?_append_of_ne_nil _ (List.cons_ne_nil _ _)] at ends
    rw [isAllBlank_iff.1 blank last (List.mem_of_getLast? ends)] at inked
    cases inked
  | cons first rest =>
    have inkedFirst : isBlank first = false := by
      have stopped := List.head?_dropWhile_not isBlank (lastLine filled)
      rw [← trimLeft, content] at stopped
      exact Bool.eq_false_iff.2 fun blank => by simp [blank] at stopped
    rw [content] at divided
    refine ⟨upper, first, rest, ?_, inkedFirst, divided.symm ▸ whole⟩
    rw [divided]
    simpa using split

theorem isSeparatorOf_entrySeparator (baseIndent : List Char)
    (ends : filled.getLast? = some last) (inked : isBlank last = false)
    (blankAfter : isAllBlank trailing = true) :
    IsSeparatorOf baseIndent (filled ++ trailing) (entrySeparator (filled ++ trailing) baseIndent) := by
  have trimmed := trimRight_append_of_getLast? ends inked blankAfter
  rw [entrySeparator, trimmed]
  by_cases inFilled : '\n' ∈ filled
  · obtain ⟨above, first, rest, split, inkedFirst, whole⟩ := exists_lastLine_eq ends inked inFilled
    rw [if_pos (isMultiline_iff.2 inFilled)]
    have aligned : IsSeparatorOf baseIndent
        (above ++ '\n' :: (indentation (lastLine filled) ++ first :: rest) ++ trailing)
        ('\n' :: indentation (lastLine filled)) :=
      .aligned (isAllBlank_indentation _) inkedFirst whole blankAfter
    rwa [← split] at aligned
  · rw [if_neg (fun multiline => inFilled (isMultiline_iff.1 multiline))]
    by_cases inTrailing : '\n' ∈ trailing
    · rw [if_pos (isMultiline_iff.2 (List.mem_append_right _ inTrailing))]
      exact .stepped inFilled inTrailing blankAfter
    · have absent : '\n' ∉ filled ++ trailing := by
        rw [List.mem_append]
        exact not_or.2 ⟨inFilled, inTrailing⟩
      rw [if_neg (fun multiline => absent (isMultiline_iff.1 multiline))]
      exact .inline absent

/-! ## The frame of what is appended -/

theorem ofBody_of_isAllBlank {body : List Char} (empty : isAllBlank body = true)
    (baseIndent : List Char) : ofBody body baseIndent =
      ⟨[], '\n' :: baseIndent ++ indentStep, [','], '\n' :: baseIndent⟩ := by
  simp [ofBody, trimRight_eq_nil_iff.2 empty]

theorem ofBody_append (ends : filled.getLast? = some last) (inked : isBlank last = false)
    (blankAfter : isAllBlank trailing = true) (baseIndent : List Char) :
    ofBody (filled ++ trailing) baseIndent =
      ⟨filled, (if last = ',' then [] else [',']) ++ entrySeparator (filled ++ trailing) baseIndent,
        if last = ',' then [','] else [], trailing⟩ := by
  have trimmed := trimRight_append_of_getLast? ends inked blankAfter
  have nonempty : filled ≠ [] := by
    rintro rfl
    cases ends
  simp only [ofBody, trimmed, ends, List.drop_left, List.isEmpty_iff, nonempty, if_false,
    Option.some.injEq]
  split <;> rfl

/-- Entries with commas before or after all of them are what is joined with commas, and a comma before or
after that. -/
theorem flatMap_commas {hasComma : Prop} [Decidable hasComma] (separator : List Char)
    {entries : List (List Char)} (nonempty : entries ≠ []) :
    (entries.flatMap fun entry => (if hasComma then [] else [',']) ++ separator ++ entry ++
        if hasComma then [','] else []) =
      (if hasComma then [] else [',']) ++ [','].intercalate (entries.map (separator ++ ·)) ++
        (if hasComma then [','] else []) := by
  induction entries with
  | nil => exact absurd rfl nonempty
  | cons entry entries ih =>
    cases entries with
    | nil => simp
    | cons next entries =>
      have below := ih (List.cons_ne_nil next entries)
      rw [List.map_cons] at below
      rw [List.flatMap_cons, below, List.map_cons, List.map_cons, List.intercalate_cons_cons]
      split <;> simp

/-- Feeds before lines are feeds after them but for the first and the last. -/
theorem flatMap_cons_append_cons {α β : Type} (lineOf : α → List β) (feed : β) (entries : List α)
    (rest : List β) :
    entries.flatMap (fun entry => feed :: lineOf entry) ++ feed :: rest =
      feed :: entries.flatMap (fun entry => lineOf entry ++ [feed]) ++ rest := by
  induction entries with
  | nil => rfl
  | cons entry entries ih => simp [ih]

/-! ## One after the other -/

/-- How the text between the brackets looks with references to classes appended. In a list that held
none each stands on a line of its own, one step deeper than the list and with a comma after it. In any
other list they stand after its last entry, each behind the same separator, with commas between all of
them and with a comma after the last one if there was one before. -/
inductive Lists (baseIndent : List Char) (names : List (List Char)) :
    List Char → List Char → Prop where
  | alone {body : List Char} :
      isAllBlank body = true →
      Lists baseIndent names body
        ('\n' :: names.flatMap (fun name => baseIndent ++ indentStep ++ reference name ++ [',', '\n']) ++
          baseIndent)
  | behind {filled trailing separator : List Char} {last : Char} :
      filled.getLast? = some last → isBlank last = false → isAllBlank trailing = true →
      IsSeparatorOf baseIndent (filled ++ trailing) separator →
      Lists baseIndent names (filled ++ trailing)
        (filled ++ (if last = ',' then [] else [',']) ++
          [','].intercalate (names.map fun name => separator ++ reference name) ++
          (if last = ',' then [','] else []) ++ trailing)

/-- The layout of a list is a fixed point of appending: all names of a run are appended in the layout that
the list has, or that the first one gives it if the list held none. -/
theorem lists_appendAll {names : List (List Char)} (blank : isAllBlank baseIndent = true)
    (whole : '\n' ∉ baseIndent) (nonempty : names ≠ []) (named : ∀ name ∈ names, IsName name)
    (body : List Char) : Lists baseIndent names body (appendAll baseIndent names body) := by
  have isEntry : ∀ entry ∈ names.map reference, IsEntry entry :=
    List.forall_mem_map.2 fun name member => isEntry_reference (named name member)
  have referred : names.map reference ≠ [] := fun empty => nonempty (List.map_eq_nil_iff.1 empty)
  have framed : appendAll baseIndent names body =
      (ofBody body baseIndent).around (names.map reference) := by
    rw [appendAll, ← foldl_appendEntry blank whole body isEntry referred, List.foldl_map]
  obtain ⟨trailing, split, blankAfter⟩ := exists_trimRight_append body
  cases ends : (trimRight body).getLast? with
  | none =>
    have empty := trimRight_eq_nil_iff.1 (List.getLast?_eq_none_iff.1 ends)
    have alone : Lists baseIndent names body _ := .alone empty
    have fed := flatMap_cons_append_cons
      (fun name => baseIndent ++ indentStep ++ reference name ++ [',']) '\n' names baseIndent
    rw [framed, ofBody_of_isAllBlank empty, around, List.flatMap_map]
    simp only [List.append_assoc, List.cons_append, List.nil_append] at fed alone ⊢
    rw [fed]
    exact alone
  | some last =>
    have inked := getLast?_trimRight ends
    have behind : Lists baseIndent names (trimRight body ++ trailing) _ :=
      .behind ends inked blankAfter (isSeparatorOf_entrySeparator baseIndent ends inked blankAfter)
    rw [framed, split, ofBody_append ends inked blankAfter, around, flatMap_commas _ referred,
      List.map_map]
    simpa [Function.comp_def] using behind

/-- Two classes listed behind two others whose layout they take over, and in a list that held none. -/
theorem lists_appendAll_user_and_order :
    isAllBlank "    ".toList = true ∧ '\n' ∉ "    ".toList ∧
      ["User".toList, "Order".toList] ≠ [] ∧
      (∀ name ∈ ["User".toList, "Order".toList], IsName name) ∧
      Lists "    ".toList ["User".toList, "Order".toList] "\n  A::class,\n\tB::class \n ".toList
        "\n  A::class,\n\tB::class,\n\tUser::class,\n\tOrder::class \n ".toList ∧
      Lists "    ".toList ["User".toList, "Order".toList] " \n".toList
        "\n        User::class,\n        Order::class,\n    ".toList := by
  have blank : isAllBlank "    ".toList = true := by decide
  have whole : '\n' ∉ "    ".toList := by decide
  have nonempty : ["User".toList, "Order".toList] ≠ [] := List.cons_ne_nil _ _
  have named : ∀ name ∈ ["User".toList, "Order".toList], IsName name := by decide
  have behind := lists_appendAll blank whole nonempty named "\n  A::class,\n\tB::class \n ".toList
  have alone := lists_appendAll blank whole nonempty named " \n".toList
  have behind_eq : appendAll "    ".toList ["User".toList, "Order".toList]
      "\n  A::class,\n\tB::class \n ".toList =
        "\n  A::class,\n\tB::class,\n\tUser::class,\n\tOrder::class \n ".toList := by
    decide
  have alone_eq : appendAll "    ".toList ["User".toList, "Order".toList] " \n".toList =
      "\n        User::class,\n        Order::class,\n    ".toList := by
    decide
  rw [behind_eq] at behind
  rw [alone_eq] at alone
  exact ⟨blank, whole, nonempty, named, behind, alone⟩

end Scaffold.Composition
