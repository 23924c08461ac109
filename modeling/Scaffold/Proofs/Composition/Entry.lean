import Scaffold.Composition.Declaration
import Scaffold.Proofs.Composition.Import

/-!
# Appending an entry to the list

What an appended entry looks like in the text between the brackets, whatever the layout of the list:
nothing but a comma and blanks is added with it, and nothing is taken away from a list that holds
entries.
-/

set_option autoImplicit false

namespace Scaffold.Composition

open Text

/-! ## The entries of a list -/

theorem entries_append_comma (front back : List Char) :
    entries (front ++ ',' :: back) = entries front ++ entries back := by
  simp [entries, List.splitOn_append_cons_self]

theorem entries_of_comma_not_mem {body : List Char} (absent : ',' ∉ body) :
    entries body = if (trim body).isEmpty then [] else [trim body] := by
  rw [entries, List.splitOn_eq_singleton absent, List.map_singleton]
  cases trim body <;> rfl

theorem comma_not_mem_of_isAllBlank {blanks : List Char} (blank : isAllBlank blanks = true) :
    ',' ∉ blanks := by
  intro member
  have inked : isBlank ',' = false := by decide
  rw [isAllBlank_iff.1 blank ',' member] at inked
  cases inked

theorem entries_of_isAllBlank {blanks : List Char} (blank : isAllBlank blanks = true) :
    entries blanks = [] := by
  rw [entries_of_comma_not_mem (comma_not_mem_of_isAllBlank blank),
    trim_eq_nil_of_isAllBlank blank]
  rfl

theorem entries_append_blank {blanks : List Char} (blank : isAllBlank blanks = true)
    (body : List Char) : entries (body ++ blanks) = entries body := by
  by_cases comma : ',' ∈ body
  · obtain ⟨front, back, rfl, absent⟩ := List.eq_append_cons_of_mem comma
    have shorter : back.length < (front ++ ',' :: back).length := by
      simp only [List.length_append, List.length_cons]
      omega
    rw [List.append_assoc, List.cons_append, entries_append_comma, entries_append_comma,
      entries_append_blank blank back]
  · have absent : ',' ∉ body ++ blanks := by
      simp [comma, comma_not_mem_of_isAllBlank blank]
    rw [entries_of_comma_not_mem comma, entries_of_comma_not_mem absent, trim_append_blank blank]
termination_by body.length

/-- Whether a text can stand between two commas as one entry: it holds no comma and no blank. -/
def IsEntry (entry : List Char) : Prop :=
  entry ≠ [] ∧ ∀ character ∈ entry, isBlank character = false ∧ character ≠ ','

theorem isEntry_reference {name : List Char} (named : IsName name) : IsEntry (reference name) := by
  refine ⟨by simp [reference, referenceMark], fun character member => ?_⟩
  rcases List.mem_append.1 member with inName | inMark
  · refine ⟨named.inked character inName, ?_⟩
    rintro rfl
    exact named.not_mem (by decide) inName
  · have inked : ∀ character ∈ referenceMark, isBlank character = false ∧ character ≠ ',' :=
      List.all_iff_forall_prop.1 (by decide)
    exact inked character inMark

theorem entries_of_isEntry {entry leading trailing : List Char} (isEntry : IsEntry entry)
    (blankBefore : isAllBlank leading = true) (blankAfter : isAllBlank trailing = true) :
    entries (leading ++ entry ++ trailing) = [entry] := by
  have absent : ',' ∉ leading ++ entry ++ trailing := by
    have inEntry : ',' ∉ entry := fun member => (isEntry.2 ',' member).2 rfl
    simp [inEntry, comma_not_mem_of_isAllBlank blankBefore,
      comma_not_mem_of_isAllBlank blankAfter]
  have filled : entry.isEmpty = false := by
    simpa using isEntry.1
  rw [entries_of_comma_not_mem absent,
    trim_append blankBefore blankAfter fun character member => (isEntry.2 character member).1,
    filled]
  rfl

/-! ## Lists with one entry more -/

/-- Whether a list is another one with an entry appended: on a line of its own in a list that held
none, and else after the last entry, with a comma between them and with the comma after it that the
last entry had. -/
inductive Appended (entry : List Char) : List Char → List Char → Prop where
  | first {body leading trailing : List Char} :
      isAllBlank body = true → isAllBlank leading = true → isAllBlank trailing = true →
      Appended entry body ('\n' :: leading ++ entry ++ ',' :: '\n' :: trailing)
  | afterEntry {filled separator trailing : List Char} {last : Char} :
      filled.getLast? = some last → isBlank last = false → last ≠ ',' →
      isAllBlank separator = true → separator ≠ [] → isAllBlank trailing = true →
      Appended entry (filled ++ trailing) (filled ++ ',' :: separator ++ entry ++ trailing)
  | afterComma {filled separator trailing : List Char} :
      filled.getLast? = some ',' →
      isAllBlank separator = true → separator ≠ [] → isAllBlank trailing = true →
      Appended entry (filled ++ trailing) (filled ++ separator ++ entry ++ ',' :: trailing)

theorem isAllBlank_indentStep : isAllBlank indentStep = true := by
  decide

theorem isAllBlank_entrySeparator {baseIndent : List Char}
    (blank : isAllBlank baseIndent = true) (body : List Char) :
    isAllBlank (entrySeparator body baseIndent) = true ∧ entrySeparator body baseIndent ≠ [] := by
  have feed : isBlank '\n' = true := by decide
  have space : isBlank ' ' = true := by decide
  by_cases filled : isMultiline (trimRight body) = true
  · simp [entrySeparator, filled, feed, isAllBlank_indentation]
  · by_cases multiline : isMultiline body = true
    · simp [entrySeparator, filled, multiline, feed, blank, isAllBlank_indentStep]
    · simp [entrySeparator, filled, multiline, space]

theorem drop_trimRight {body trailing : List Char} (split : body = trimRight body ++ trailing) :
    body.drop (trimRight body).length = trailing := by
  have dropped : (trimRight body ++ trailing).drop (trimRight body).length = trailing :=
    List.drop_left
  rwa [← split] at dropped

theorem appended_appendEntry {baseIndent : List Char} (blank : isAllBlank baseIndent = true)
    (body entry : List Char) : Appended entry body (appendEntry body entry baseIndent) := by
  obtain ⟨trailing, split, blankAfter⟩ := exists_trimRight_append body
  obtain ⟨blankBetween, apart⟩ := isAllBlank_entrySeparator blank body
  simp only [appendEntry, drop_trimRight split]
  cases last : (trimRight body).getLast? with
  | none =>
    have empty := List.getLast?_eq_none_iff.1 last
    have added : Appended entry body
        ('\n' :: (baseIndent ++ indentStep) ++ entry ++ ',' :: '\n' :: baseIndent) :=
      .first (trimRight_eq_nil_iff.1 empty) (by simp [blank, isAllBlank_indentStep]) blank
    simpa [empty] using added
  | some character =>
    have filled : (trimRight body).isEmpty = false := by
      cases empty : trimRight body with
      | nil => simp [empty] at last
      | cons first rest => rfl
    simp only [filled, Bool.false_eq_true, if_false]
    by_cases comma : character = ','
    · subst comma
      have added : Appended entry (trimRight body ++ trailing) _ :=
        .afterComma last blankBetween apart blankAfter
      rw [← split] at added
      simpa using added
    · have added : Appended entry (trimRight body ++ trailing) _ :=
        .afterEntry last (getLast?_trimRight last) comma blankBetween apart blankAfter
      rw [← split] at added
      simpa [comma] using added

/-- A new entry stands after the last one with nothing but commas and blanks between them. -/
theorem Appended.exists_eq_append {entry body newBody : List Char}
    (appended : Appended entry body newBody) :
    ∃ between after, newBody = (trimRight body ++ between) ++ (entry ++ after) ∧
      ∀ character ∈ between, character = ',' ∨ isBlank character = true := by
  have blanks {separator : List Char} (blank : isAllBlank separator = true) :
      ∀ character ∈ separator, character = ',' ∨ isBlank character = true :=
    fun character member => .inr (isAllBlank_iff.1 blank character member)
  cases appended with
  | @first _ leading trailing blank blankBefore _ =>
    have feed : isBlank '\n' = true := by decide
    refine ⟨'\n' :: leading, ',' :: '\n' :: trailing, ?_, blanks (by simp [feed, blankBefore])⟩
    rw [trimRight_eq_nil_iff.2 blank, List.nil_append, List.append_assoc]
  | @afterEntry filled separator trailing _ ends inked _ blankBetween _ blankAfter =>
    refine ⟨',' :: separator, trailing, ?_,
      List.forall_mem_cons.2 ⟨.inl rfl, blanks blankBetween⟩⟩
    rw [trimRight_append_of_getLast? ends inked blankAfter]
    simp
  | @afterComma filled separator trailing ends blankBetween _ blankAfter =>
    refine ⟨separator, ',' :: trailing, ?_, blanks blankBetween⟩
    rw [trimRight_append_of_getLast? ends (by decide) blankAfter]
    simp

theorem Appended.entries_eq {entry body newBody : List Char} (isEntry : IsEntry entry)
    (appended : Appended entry body newBody) : entries newBody = entries body ++ [entry] := by
  have feed : isBlank '\n' = true := by decide
  cases appended with
  | @first _ leading trailing blank blankBefore blankAfter =>
    have alone : entries ('\n' :: leading ++ entry ++ []) = [entry] :=
      entries_of_isEntry isEntry (by simp [feed, blankBefore]) rfl
    rw [List.append_nil] at alone
    rw [entries_append_comma, alone, entries_of_isAllBlank blank,
      entries_of_isAllBlank (by simp [feed, blankAfter]), List.append_nil, List.nil_append]
  | @afterEntry filled separator trailing _ _ _ _ blankBetween _ blankAfter =>
    have alone := entries_of_isEntry isEntry blankBetween blankAfter
    rw [List.append_assoc, List.append_assoc, List.cons_append, entries_append_comma,
      ← List.append_assoc, alone, entries_append_blank blankAfter]
  | @afterComma filled separator trailing last blankBetween _ blankAfter =>
    obtain ⟨upper, rfl⟩ := List.getLast?_eq_some_iff.1 last
    have alone : entries (separator ++ entry ++ []) = [entry] :=
      entries_of_isEntry isEntry blankBetween rfl
    rw [List.append_nil] at alone
    rw [entries_append_comma, entries_of_isAllBlank blankAfter, List.append_nil,
      entries_append_blank blankAfter, List.append_assoc, List.append_assoc,
      List.singleton_append, entries_append_comma, alone, entries_append_comma,
      entries_of_isAllBlank isAllBlank_nil, List.append_nil]

theorem Appended.not_mem {entry body newBody : List Char} {character : Char}
    (appended : Appended entry body newBody) (inked : isBlank character = false)
    (different : character ≠ ',') (absentBody : character ∉ body)
    (absentEntry : character ∉ entry) : character ∉ newBody := by
  have notBlank {blanks : List Char} (blank : isAllBlank blanks = true) :
      character ∉ blanks := by
    intro member
    rw [isAllBlank_iff.1 blank character member] at inked
    cases inked
  have notFeed : character ≠ '\n' := by
    rintro rfl
    exact absurd inked (by decide)
  cases appended with
  | first _ blankBefore blankAfter =>
    simp [different, notFeed, absentEntry, notBlank blankBefore, notBlank blankAfter]
  | afterEntry _ _ _ blankBetween _ blankAfter =>
    rw [List.mem_append, not_or] at absentBody
    simp [different, absentEntry, absentBody.1, notBlank blankBetween, notBlank blankAfter]
  | afterComma _ blankBetween _ blankAfter =>
    rw [List.mem_append, not_or] at absentBody
    simp [different, absentEntry, absentBody.1, notBlank blankBetween, notBlank blankAfter]

end Scaffold.Composition
