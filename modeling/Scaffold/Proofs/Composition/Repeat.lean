import Scaffold.Proofs.Composition.Rewrite

/-!
# Registering again

The entry that a registration appends stands after a blank, so the file then refers to its class,
whatever the name and wherever the import line went. From then on registering under this name finds
the class registered and leaves the tree as it is.
-/

set_option autoImplicit false

namespace Scaffold.Composition

open Text
open DiskAction (afterRead)

/-! ## The reference in the new text -/

/-- A reference after a character of no word is found, whatever its name is made of. -/
theorem refersTo_of_reference (name front back : List Char) {before : Char}
    (apart : isWord before = false) :
    refersTo name (front ++ before :: (reference name ++ back)) = true := by
  obtain ⟨first, rest, named⟩ : ∃ first rest, reference name = first :: rest :=
    List.exists_cons_of_ne_nil (by simp [reference, referenceMark])
  have here : after? (reference name) (reference name ++ back) = some back :=
    after?_eq_some_iff.2 rfl
  have notWord : isWordAt (some before) = false := apart
  have general (last : Option Char) :
      refersFrom (reference name) last (front ++ before :: (reference name ++ back)) = true := by
    induction front generalizing last with
    | nil =>
      rw [named, List.cons_append] at here ⊢
      simp [refersFrom, notWord, here]
    | cons character front ih => simp [refersFrom, ih]
  exact general none

private theorem exists_blank_before (front blanks entry back : List Char)
    (blank : isAllBlank blanks = true) (filled : blanks ≠ []) :
    ∃ above before below, isBlank before = true ∧
      front ++ blanks ++ entry ++ back = above ++ before :: (entry ++ below) := by
  obtain ⟨above, last, rfl⟩ : ∃ above last, blanks = above ++ [last] :=
    ⟨_, _, (List.dropLast_concat_getLast filled).symm⟩
  exact ⟨front ++ above, last, back, isAllBlank_iff.1 blank last (by simp), by simp⟩

/-- An entry that is appended stands after a blank. -/
theorem Appended.exists_blank_before {entry body newBody : List Char}
    (appended : Appended entry body newBody) :
    ∃ front before back, isBlank before = true ∧ newBody = front ++ before :: (entry ++ back) := by
  cases appended with
  | @first _ leading trailing _ blankBefore _ =>
    have feed : isBlank '\n' = true := by decide
    exact Composition.exists_blank_before [] ('\n' :: leading) entry (',' :: '\n' :: trailing)
      (by simp [feed, blankBefore]) (List.cons_ne_nil _ _)
  | @afterEntry filled separator trailing last _ _ _ blankBetween apart _ =>
    obtain ⟨above, before, below, blank, same⟩ :=
      Composition.exists_blank_before (filled ++ [',']) separator entry trailing blankBetween apart
    exact ⟨above, before, below, blank, by rw [← same]; simp⟩
  | @afterComma filled separator trailing _ blankBetween apart _ =>
    exact Composition.exists_blank_before filled separator entry (',' :: trailing) blankBetween
      apart

namespace Document

theorem exists_apply_listEdit (document : Document) (name text : List Char) :
    ∃ inserted before back, isBlank before = true ∧
      Edit.apply text (document.listEdit name) =
        text.take document.list.start ++ (inserted ++ before :: (reference name ++ back)) := by
  have appended : Appended (reference name) document.body (document.listEdit name).replacement :=
    appended_appendEntry (Layout.isAllBlank_listIndent document) document.body (reference name)
  obtain ⟨front, before, back, blank, replacement_eq⟩ := appended.exists_blank_before
  refine ⟨front, before, back ++ text.drop document.list.finish, blank, ?_⟩
  rw [Edit.apply, replacement_eq]
  simp [listEdit]

theorem refersTo_apply_listEdit (document : Document) (name text : List Char) :
    Composition.refersTo name (Edit.apply text (document.listEdit name)) = true := by
  obtain ⟨inserted, before, back, blank, applied⟩ := document.exists_apply_listEdit name text
  rw [applied, ← List.append_assoc]
  exact refersTo_of_reference name _ back (not_isWord_of_isBlank blank)

/-- An import line that is put above the list leaves the entry in one piece. -/
theorem refersTo_apply_above {document : Document} {name : List Char} {edit : Edit}
    (point : edit.finish = edit.start) (above : edit.start < document.list.start)
    (within : edit.start ≤ document.text.length) :
    Composition.refersTo name
      (Edit.apply (Edit.apply document.text (document.listEdit name)) edit) = true := by
  obtain ⟨inserted, before, back, blank, applied⟩ :=
    document.exists_apply_listEdit name document.text
  have inFront : edit.start ≤ (document.text.take document.list.start).length := by
    rw [List.length_take]
    omega
  have whole : Edit.apply (Edit.apply document.text (document.listEdit name)) edit =
      (Edit.apply document.text (document.listEdit name)).take edit.start ++ edit.replacement ++
        (document.text.take document.list.start).drop edit.start ++ inserted ++
          before :: (reference name ++ back) := by
    rw [Edit.apply, point, applied, List.drop_append_of_le_length inFront]
    simp only [List.append_assoc]
  rw [whole]
  exact refersTo_of_reference name _ back (not_isWord_of_isBlank blank)

/-- A text refers to a class that has been registered in it, also where the edits overlap: the list
is edited last, or below the import line. -/
theorem refersTo_editedText {text : List Char} {document : Document}
    (parsed : parse text = .ok document) (className name : List Char) :
    Composition.refersTo name (document.editedText className name) = true := by
  obtain ⟨text_eq, found, -⟩ := parse_eq_ok_iff.1 parsed
  have within : document.importsEnd ≤ document.text.length := by
    rw [text_eq]
    exact importsEnd?_le_length (findImportsEnd_eq_ok_iff.1 found)
  rw [editedText, edits]
  cases imported : document.importEdit? className with
  | none => exact document.refersTo_apply_listEdit name document.text
  | some edit =>
    obtain ⟨start_eq, finish_eq⟩ :
        edit.start = document.importsEnd ∧ edit.finish = document.importsEnd := by
      simp only [importEdit?] at imported
      split at imported
      · cases imported
      · cases imported
        exact ⟨rfl, rfl⟩
    simp only
    split
    · next above =>
      exact refersTo_apply_above (finish_eq.trans start_eq.symm) above (start_eq ▸ within)
    · exact document.refersTo_apply_listEdit name _

end Document

/-! ## One registration -/

variable {disk newDisk : Disk} {path : Path} {octets : ByteArray} {mode : Nat}
  {className name : String} {outcome : Outcome}

/-- A registration that counts has read a file, in which it found the class or to which it wrote the
edited text. -/
theorem exists_text_of_isRegistered
    (ended : exec (register path className name) disk = (.ok outcome, newDisk))
    (isRegistered : outcome.isRegistered = true) :
    ∃ octets mode held, disk.look path = .ok (some (.file octets mode)) ∧
      decode octets = .ok held ∧
      (refersTo name.toList (feedLines held.toList) = true ∧ newDisk = afterRead disk ∨
        ∃ document, Document.parse (feedLines held.toList) = .ok document ∧
          exec (DiskAction.writeWhole path
            (String.ofList (document.editedText className.toList name.toList)))
              (afterRead disk) = (.ok (), newDisk)) := by
  cases looked : disk.look path with
  | error fault =>
    rw [exec_register, looked] at ended
    cases ended
  | ok seen =>
    match seen with
    | none =>
      rw [exec_register, looked] at ended
      cases ended
      cases isRegistered
    | some .directory =>
      rw [exec_register, looked] at ended
      cases ended
      cases isRegistered
    | some (.file octets mode) =>
      rw [exec_register_of_file looked] at ended
      cases read : DiskAction.textAt disk path with
      | error fault =>
        rw [read] at ended
        cases ended
        cases isRegistered
      | ok text =>
        obtain ⟨-, held, decoded, rfl⟩ := (textAt_eq_ok_iff looked).1 read
        rw [read] at ended
        simp only [String.toList_ofList] at ended
        refine ⟨octets, mode, held, rfl, decoded, ?_⟩
        cases registersIn_of_isRegistered ended isRegistered with
        | present refers => exact .inl ⟨refers, rfl⟩
        | written edited written =>
          obtain ⟨document, parsed, rfl⟩ := exists_of_registeredText edited
          exact .inr ⟨document, parsed, written⟩

/-! ## The registrations after it -/

/-- Whether there is a file at a path whose text refers to a class when it is read. -/
def RefersAt (disk : Disk) (path : Path) (name : String) : Prop :=
  ∃ octets mode text, disk.look path = .ok (some (.file octets mode)) ∧
    decode octets = .ok text ∧ refersTo name.toList (feedLines text.toList) = true

theorem RefersAt.inject (refers : RefersAt disk path name) (injection : Injection) :
    RefersAt { disk with injection } path name :=
  refers

theorem refersAt_of_isRegistered (sound : disk.Sound) (inClassName : '\r' ∉ className.toList)
    (inName : '\r' ∉ name.toList)
    (ended : exec (register path className name) disk = (.ok outcome, newDisk))
    (isRegistered : outcome.isRegistered = true) : RefersAt newDisk path name := by
  obtain ⟨octets, mode, held, found, decoded, unchanged | written⟩ :=
    exists_text_of_isRegistered ended isRegistered
  · obtain ⟨refers, rfl⟩ := unchanged
    exact ⟨octets, mode, held, found, decoded, refers⟩
  · obtain ⟨document, parsed, written⟩ := written
    have soundRead : (afterRead disk).Sound := ⟨sound.tree, sound.start⟩
    have foundRead : (afterRead disk).look path = .ok (some (.file octets mode)) := found
    have wrote := DiskAction.wrote_writeWhole soundRead path
      (String.ofList (document.editedText className.toList name.toList))
    rw [written] at wrote
    have noReturn : '\r' ∉ document.text := by
      rw [(Document.parse_eq_ok_iff.1 parsed).1]
      exact return_not_mem_feedLines held.toList
    refine ⟨_, mode, _, wrote.look_eq foundRead, decode_encode _, ?_⟩
    rw [String.toList_ofList,
      feedLines_eq_self (Document.return_not_mem_editedText noReturn inClassName inName)]
    exact Document.refersTo_editedText parsed className.toList name.toList

/-- A class that a file refers to is not registered in it again, whatever its full name is said to
be. -/
theorem RefersAt.exec_register (refers : RefersAt disk path name) (className : String) :
    ∃ outcome, exec (register path className name) disk = (.ok outcome, afterRead disk) ∧
      (disk.injection.reads 0 = none → outcome = .alreadyRegistered) := by
  obtain ⟨octets, mode, held, found, decoded, refers⟩ := refers
  rw [exec_register_of_file found]
  cases read : DiskAction.textAt disk path with
  | error fault =>
    refine ⟨_, rfl, fun quiet => ?_⟩
    rw [(textAt_eq_ok_iff found).2 ⟨quiet, held, decoded, rfl⟩] at read
    cases read
  | ok text =>
    obtain ⟨-, other, decodedToo, rfl⟩ := (textAt_eq_ok_iff found).1 read
    rw [decoded] at decodedToo
    cases decodedToo
    refine ⟨.alreadyRegistered, ?_, fun _ => rfl⟩
    simp only [registerIn, String.toList_ofList]
    rw [if_pos refers]
    rfl

/-- The disk after registrations under one short name and several full ones. -/
def afterRepeats (path : Path) (name : String) (classNames : List String) (disk : Disk) : Disk :=
  (exec (registerInTurn path (classNames.map (·, name))) disk).2

theorem RefersAt.afterRepeats_eq (refers : RefersAt disk path name) (classNames : List String) :
    ∃ injection, afterRepeats path name classNames disk = { disk with injection } := by
  induction classNames generalizing disk with
  | nil => exact ⟨disk.injection, rfl⟩
  | cons className classNames ih =>
    obtain ⟨outcome, ran, -⟩ := refers.exec_register className
    have kept : RefersAt (afterRead disk) path name := refers.inject _
    obtain ⟨injection, rest⟩ := ih kept
    refine ⟨injection, ?_⟩
    have step : afterRepeats path name (className :: classNames) disk =
        afterRepeats path name classNames (afterRead disk) := by
      simp only [afterRepeats, List.map_cons, registerInTurn, exec_bind, ran]
      cases exec (registerInTurn path (classNames.map (·, name))) (afterRead disk) with
      | mk result last => cases result <;> rfl
    rw [step, rest]
    rfl

/-- Once a class counts as registered in a file, the file refers to it. Every later registration
under its short name, after any number of others and whatever the full names, then leaves the tree as
it is, and finds the class registered unless its read fails. -/
theorem registered_stays_registered (sound : disk.Sound) (inClassName : '\r' ∉ className.toList)
    (inName : '\r' ∉ name.toList)
    (ended : exec (register path className name) disk = (.ok outcome, newDisk))
    (isRegistered : outcome.isRegistered = true) :
    RefersAt newDisk path name ∧
      ∀ injection classNames other last,
        afterRepeats path name classNames { newDisk with injection } = last →
          last.tree = newDisk.tree ∧
            (last.injection.reads 0 = none →
              exec (register path other name) last = (.ok .alreadyRegistered, afterRead last)) := by
  have refers := refersAt_of_isRegistered sound inClassName inName ended isRegistered
  refine ⟨refers, ?_⟩
  intro injection classNames other last repeated
  obtain ⟨later, last_eq⟩ := (refers.inject injection).afterRepeats_eq classNames
  rw [repeated] at last_eq
  subst last_eq
  refine ⟨rfl, fun quiet => ?_⟩
  obtain ⟨outcome, ran, found⟩ := (refers.inject later).exec_register other
  rw [ran, found quiet]

/-- A file in which the last import line stands inside the list. -/
def importInList : String :=
  "use A\\B;\ndeclarations: [\nuse A\\D;\n    B::class,\n]\n"

/-- The edit of the list takes the import line away again, but not the entry, whose name is no plain
word. -/
theorem registered_stays_registered_importInList :
    ∃ disk newDisk, Disk.Sound disk ∧ '\r' ∉ "A\\C.*".toList ∧ '\r' ∉ "C.*".toList ∧
      exec (register ⟨.relative, ["M.php"]⟩ "A\\C.*" "C.*") disk = (.ok .registered, newDisk) ∧
      Outcome.registered.isRegistered = true ∧
      RefersAt newDisk ⟨.relative, ["M.php"]⟩ "C.*" ∧
      ∀ injection classNames other last,
        afterRepeats ⟨.relative, ["M.php"]⟩ "C.*" classNames { newDisk with injection } = last →
          last.tree = newDisk.tree ∧
            (last.injection.reads 0 = none →
              exec (register ⟨.relative, ["M.php"]⟩ other "C.*") last =
                (.ok .alreadyRegistered, afterRead last)) := by
  have replaceable := replaceable_withFile (by decide : "M.php" ≠ "..") (by decide) (by decide)
    (by decide) (encode importInList) 0o644
  have edited : registeredText (feedLines importInList.toList) "A\\C.*".toList "C.*".toList =
      .ok ("use A\\B;\ndeclarations: [\nuse A\\D;\n".toList ++
        "    B::class,\n    C.*::class,\n B::class,\n]\n".toList) := by
    decide +kernel
  obtain ⟨newDisk, registered, -⟩ :=
    exec_register_of_replaceable replaceable (by decide +kernel) edited
  have inClassName : '\r' ∉ "A\\C.*".toList := by decide
  have inName : '\r' ∉ "C.*".toList := by decide
  exact ⟨_, newDisk, replaceable.sound, inClassName, inName, registered, rfl,
    registered_stays_registered replaceable.sound inClassName inName registered rfl⟩

end Scaffold.Composition
