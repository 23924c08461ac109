import Mathlib.Data.List.Induction
import Scaffold.Proofs.Composition.Entry
import Scaffold.Proofs.Text.Search

/-!
# The layout of a list that grows

Entries appended to a list one after the other are all laid out alike. The first of them fixes how,
and those after it leave that layout as it is.
-/

set_option autoImplicit false

namespace Scaffold.Composition

open Text

/-- What stands around the entries appended to a list: before the first, around each, and after the
last. -/
structure ListFrame where
  front : List Char
  before : List Char
  after : List Char
  back : List Char
  deriving DecidableEq, Repr

namespace ListFrame

/-- The list with entries appended to it. -/
def around (frame : ListFrame) (entries : List (List Char)) : List Char :=
  frame.front ++ (entries.flatMap (fun entry => frame.before ++ entry ++ frame.after) ++ frame.back)

/-- How entries are appended to a list. -/
def ofBody (body baseIndent : List Char) : ListFrame :=
  let filled := trimRight body
  let trailing := body.drop filled.length
  if filled.isEmpty then ⟨[], '\n' :: baseIndent ++ indentStep, [','], '\n' :: baseIndent⟩
  else if filled.getLast? = some ',' then
    ⟨filled, entrySeparator body baseIndent, [','], trailing⟩
  else ⟨filled, ',' :: entrySeparator body baseIndent, [], trailing⟩

theorem appendEntry_eq (body entry baseIndent : List Char) :
    appendEntry body entry baseIndent = (ofBody body baseIndent).around [entry] := by
  unfold appendEntry ofBody
  by_cases empty : (trimRight body).isEmpty = true
  · simp [empty, around]
  · by_cases comma : (trimRight body).getLast? = some ','
    · simp [empty, comma, around]
    · simp [empty, comma, around]

/-! ## Frames that stay -/

/-- The comma before an entry or after it. -/
inductive Commas : List Char → List Char → Prop where
  | before : Commas [','] []
  | after : Commas [] [',']

theorem Commas.feed_not_mem {before after : List Char} (commas : Commas before after) :
    '\n' ∉ before ∧ '\n' ∉ after := by
  cases commas <;> decide

/-- The entries are on lines of their own with one indentation, or all on the line of the brackets. -/
inductive Separates (frame : ListFrame) : List Char → Prop where
  | onLines {indent : List Char} :
      isAllBlank indent = true → '\n' ∉ indent → Separates frame ('\n' :: indent)
  | onOneLine : '\n' ∉ frame.front → '\n' ∉ frame.back → Separates frame [' ']

structure Even (frame : ListFrame) : Prop where
  back : isAllBlank frame.back = true
  around : ∃ comma separator, frame.before = comma ++ separator ∧ Commas comma frame.after ∧
    Separates frame separator

theorem feed_not_mem_indentation {text : List Char} (absent : '\n' ∉ text) :
    '\n' ∉ indentation text :=
  fun member => absent ((List.takeWhile_sublist _).subset member)

theorem isMultiline_iff {text : List Char} : isMultiline text = true ↔ '\n' ∈ text := by
  simp [isMultiline]

theorem even_ofBody {baseIndent : List Char} (blank : isAllBlank baseIndent = true)
    (unbroken : '\n' ∉ baseIndent) (body : List Char) : (ofBody body baseIndent).Even := by
  have feed : isBlank '\n' = true := by decide
  have stepUnbroken : '\n' ∉ indentStep := by decide
  obtain ⟨trailing, split, blankAfter⟩ := exists_trimRight_append body
  have separates (frame : ListFrame) (front_eq : frame.front = trimRight body)
      (back_eq : frame.back = trailing) : Separates frame (entrySeparator body baseIndent) := by
    unfold entrySeparator
    by_cases multiline : isMultiline (trimRight body) = true
    · rw [if_pos multiline]
      exact .onLines (isAllBlank_indentation _)
        (feed_not_mem_indentation (feed_not_mem_lastLine _))
    · rw [if_neg multiline]
      by_cases broken : isMultiline body = true
      · rw [if_pos broken]
        exact .onLines (by simp [blank, isAllBlank_indentStep]) (by simp [unbroken, stepUnbroken])
      · rw [if_neg broken]
        rw [isMultiline_iff] at multiline broken
        rw [split, List.mem_append, not_or] at broken
        exact .onOneLine (front_eq ▸ multiline) (back_eq ▸ broken.2)
  simp only [ofBody, drop_trimRight split]
  by_cases empty : (trimRight body).isEmpty = true
  · simp only [if_pos empty]
    exact ⟨by simp [feed, blank], [], '\n' :: baseIndent ++ indentStep, rfl, .after,
      .onLines (by simp [blank, isAllBlank_indentStep]) (by simp [unbroken, stepUnbroken])⟩
  · by_cases comma : (trimRight body).getLast? = some ','
    · simp only [if_neg empty, if_pos comma]
      exact ⟨blankAfter, [], entrySeparator body baseIndent, rfl, .after, separates _ rfl rfl⟩
    · simp only [if_neg empty, if_neg comma]
      exact ⟨blankAfter, [','], entrySeparator body baseIndent, rfl, .before, separates _ rfl rfl⟩

/-- The list up to its last entry. -/
def filled (frame : ListFrame) (entries : List (List Char)) : List Char :=
  frame.front ++ entries.flatMap fun entry => frame.before ++ entry ++ frame.after

theorem around_eq (frame : ListFrame) (entries : List (List Char)) :
    frame.around entries = frame.filled entries ++ frame.back := by
  rw [around, filled, List.append_assoc]

theorem filled_append (frame : ListFrame) (entries : List (List Char)) (entry : List Char) :
    frame.filled (entries ++ [entry]) =
      frame.filled entries ++ (frame.before ++ entry ++ frame.after) := by
  simp [filled]

theorem feed_not_mem_filled {frame : ListFrame} {entries : List (List Char)}
    (front : '\n' ∉ frame.front) (before : '\n' ∉ frame.before) (after : '\n' ∉ frame.after)
    (isEntry : ∀ entry ∈ entries, IsEntry entry) : '\n' ∉ frame.filled entries := by
  simp only [filled, List.mem_append, List.mem_flatMap, not_or, not_exists, not_and]
  refine ⟨front, fun entry member => ⟨⟨before, fun inEntry => ?_⟩, after⟩⟩
  exact absurd ((isEntry entry member).2 '\n' inEntry).1 (by decide)

theorem Separates.entrySeparator_eq {frame : ListFrame}
    {entries : List (List Char)} {last comma separator : List Char}
    (isEntry : ∀ entry ∈ entries ++ [last], IsEntry entry)
    (separates : Separates frame separator) (before_eq : frame.before = comma ++ separator)
    (commas : Commas comma frame.after) (baseIndent : List Char)
    (trimmed : trimRight (frame.around (entries ++ [last])) = frame.filled (entries ++ [last])) :
    entrySeparator (frame.around (entries ++ [last])) baseIndent = separator := by
  have isEntryLast := isEntry last (by simp)
  obtain ⟨commaUnbroken, afterUnbroken⟩ := commas.feed_not_mem
  cases separates with
  | @onLines indent blank unbroken =>
    have entryUnbroken : '\n' ∉ last := fun member =>
      absurd (isEntryLast.2 '\n' member).1 (by decide)
    have filled_eq : frame.filled (entries ++ [last]) =
        (frame.filled entries ++ comma) ++ '\n' :: (indent ++ last ++ frame.after) := by
      rw [filled_append, before_eq]
      simp
    have lastLine_eq : lastLine (frame.filled (entries ++ [last])) =
        indent ++ last ++ frame.after := by
      rw [filled_eq, lastLine_append_cons_feed,
        lastLine_eq_self (by simp [unbroken, entryUnbroken, afterUnbroken])]
    have multiline : isMultiline (frame.filled (entries ++ [last])) = true :=
      isMultiline_iff.2 (by simp [filled_eq])
    unfold entrySeparator
    rw [trimmed, if_pos multiline, lastLine_eq]
    cases last with
    | nil => exact absurd rfl isEntryLast.1
    | cons first rest =>
      rw [List.append_assoc, List.cons_append,
        indentation_append blank (isEntryLast.2 first List.mem_cons_self).1]
  | onOneLine front back =>
    have beforeUnbroken : '\n' ∉ frame.before := by
      simp [before_eq, commaUnbroken]
    have unbroken := feed_not_mem_filled front beforeUnbroken afterUnbroken isEntry
    have single : ¬isMultiline (frame.filled (entries ++ [last])) = true :=
      isMultiline_iff.not.2 unbroken
    have singleBody : ¬isMultiline (frame.around (entries ++ [last])) = true := by
      rw [isMultiline_iff, around_eq, List.mem_append, not_or]
      exact ⟨unbroken, back⟩
    unfold entrySeparator
    rw [trimmed, if_neg single, if_neg singleBody]

/-- A list that has got an entry gets the next one in the same frame. -/
theorem Even.appendEntry_around {frame : ListFrame} (even : frame.Even)
    {entries : List (List Char)} {last : List Char}
    (isEntry : ∀ entry ∈ entries ++ [last], IsEntry entry) (entry baseIndent : List Char) :
    appendEntry (frame.around (entries ++ [last])) entry baseIndent =
      frame.around (entries ++ [last] ++ [entry]) := by
  obtain ⟨comma, separator, before_eq, commas, separates⟩ := even.around
  have isEntryLast := isEntry last (by simp)
  obtain ⟨character, ends⟩ : ∃ character, last.getLast? = some character := by
    cases found : last.getLast? with
    | none => exact absurd (List.getLast?_eq_none_iff.1 found) isEntryLast.1
    | some character => exact ⟨character, rfl⟩
  have inked := isEntryLast.2 character (List.mem_of_getLast? ends)
  have filled_eq := filled_append frame entries last
  have lastFilled : (frame.filled (entries ++ [last])).getLast? =
      if frame.after = [] then some character else some ',' := by
    rw [filled_eq]
    generalize frame.after = after at commas
    cases commas <;> simp [ends]
  have trimmed : trimRight (frame.around (entries ++ [last])) = frame.filled (entries ++ [last]) := by
    rw [around_eq, trimRight_append even.back]
    refine trimRight_eq_self fun found foundLast => ?_
    rw [lastFilled] at foundLast
    split at foundLast
    · rw [Option.some.injEq] at foundLast
      exact foundLast ▸ inked.1
    · rw [Option.some.injEq] at foundLast
      exact foundLast ▸ by decide
  have separator_eq := separates.entrySeparator_eq isEntry before_eq commas baseIndent trimmed
  have trailing : (frame.around (entries ++ [last])).drop
      (frame.filled (entries ++ [last])).length = frame.back := by
    rw [around_eq, List.drop_left]
  have filled : (frame.filled (entries ++ [last])).isEmpty = false := by
    cases found : frame.filled (entries ++ [last]) with
    | nil =>
      rw [found] at lastFilled
      split at lastFilled <;> cases lastFilled
    | cons first rest => rfl
  have grown_eq := filled_append frame (entries ++ [last]) entry
  rw [appendEntry]
  simp only [trimmed, trailing, separator_eq, filled, Bool.false_eq_true, if_false]
  rw [around_eq, grown_eq, before_eq, lastFilled]
  generalize frame.after = after at commas
  cases commas with
  | before => simp [inked.2]
  | after => simp

/-- Entries that are appended one after the other stand in the frame of the first one. -/
theorem foldl_appendEntry {baseIndent : List Char} (blank : isAllBlank baseIndent = true)
    (unbroken : '\n' ∉ baseIndent) (body : List Char) {entries : List (List Char)}
    (isEntry : ∀ entry ∈ entries, IsEntry entry) (nonempty : entries ≠ []) :
    entries.foldl (fun body entry => appendEntry body entry baseIndent) body =
      (ofBody body baseIndent).around entries := by
  have even := even_ofBody blank unbroken body
  induction entries using List.reverseRecOn with
  | nil => exact absurd rfl nonempty
  | append_singleton entries entry ih =>
    have isEntryBefore : ∀ other ∈ entries, IsEntry other :=
      fun other among => isEntry other (List.mem_append_left _ among)
    rw [List.foldl_append, List.foldl_cons, List.foldl_nil]
    rcases List.eq_nil_or_concat entries with rfl | ⟨front, last, split⟩
    · exact appendEntry_eq body entry baseIndent
    · rw [List.concat_eq_append] at split
      subst split
      rw [ih isEntryBefore (by simp), even.appendEntry_around isEntryBefore]

end ListFrame

end Scaffold.Composition
