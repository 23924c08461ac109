import Scaffold.Proofs.Composition.Recovery
import Scaffold.Proofs.Composition.Register

/-!
# Files rewritten by a registration

A file is read with its line ends turned into feeds and written as a whole. Where a class has been
registered in it, the text that it held is recovered exactly when no return stood outside a blank list
and the last import line did not end in the list.
-/

set_option autoImplicit false

namespace Scaffold.Composition

open Text
open DiskAction (afterRead)

theorem exists_of_registeredText {text className name newText : List Char}
    (registered : registeredText text className name = .ok newText) :
    ∃ document, Document.parse text = .ok document ∧
      newText = document.editedText className name := by
  cases parsed : Document.parse text with
  | error fault => simp [registeredText, parsed, bind, Except.bind] at registered
  | ok document =>
    refine ⟨document, rfl, ?_⟩
    simp only [registeredText, parsed, Document.register, bind, Except.bind] at registered
    cases importsEnd : findImportsEnd (document.editedText className name) with
    | error fault => simp [importsEnd] at registered
    | ok position =>
      cases list : findList (document.editedText className name) with
      | error fault => simp [importsEnd, list] at registered
      | ok span => simpa [importsEnd, list, pure, Except.pure, eq_comm] using registered

/-- How a registration in a text counts: the text refers to the class, or the edited text is written
to the file. -/
inductive RegistersIn (path : Path) (className name text : List Char) (disk : Disk) :
    Outcome → Disk → Prop where
  | present : refersTo name text = true →
      RegistersIn path className name text disk .alreadyRegistered disk
  | written {newText : List Char} {newDisk : Disk} :
      registeredText text className name = .ok newText →
      exec (DiskAction.writeWhole path (String.ofList newText)) disk = (.ok (), newDisk) →
      RegistersIn path className name text disk .registered newDisk

theorem registersIn_of_isRegistered {disk newDisk : Disk} {path : Path}
    {className name text : List Char} {outcome : Outcome}
    (ended : exec (registerIn path className name text) disk = (.ok outcome, newDisk))
    (isRegistered : outcome.isRegistered = true) :
    RegistersIn path className name text disk outcome newDisk := by
  unfold registerIn at ended
  split at ended
  · next refers =>
    cases ended
    exact .present refers
  · cases edited : registeredText text className name with
    | error fault =>
      rw [edited] at ended
      cases ended
      cases isRegistered
    | ok newText =>
      simp only [edited, exec_write] at ended
      cases written : exec (DiskAction.writeWhole path (String.ofList newText)) disk with
      | mk result lastDisk =>
        rw [written] at ended
        cases result with
        | ok =>
          cases ended
          exact .written edited written
        | error fault =>
          cases fault with
          | disk fault =>
            cases ended
            cases isRegistered
          | nullCharacter => cases ended

theorem textAt_eq_ok_iff {disk : Disk} {path : Path} {octets : ByteArray} {mode : Nat}
    {text : String} (found : disk.look path = .ok (some (.file octets mode))) :
    DiskAction.textAt disk path = .ok text ↔
      disk.injection.reads 0 = none ∧
        ∃ held, decode octets = .ok held ∧ text = String.ofList (feedLines held.toList) := by
  rw [DiskAction.textAt, Disk.status_of_look found]
  cases disk.injection.reads 0 with
  | some fault => simp
  | none => cases decoded : decode octets <;> simp [decoded, eq_comm]

theorem exec_register_of_file {disk : Disk} {path : Path} {octets : ByteArray} {mode : Nat}
    (found : disk.look path = .ok (some (.file octets mode))) (className name : String) :
    exec (register path className name) disk =
      match DiskAction.textAt disk path with
      | .error fault => (.ok (.unwritable fault.message), afterRead disk)
      | .ok text =>
        exec (registerIn path className.toList name.toList text.toList) (afterRead disk) := by
  rw [exec_register, found]
  simp only [Option.any_some, Item.isFile, if_true, DiskAction.exec_readText]
  cases DiskAction.textAt disk path <;> rfl

/-- A class is registered only by reading a text, editing it and writing all of it. -/
theorem exists_of_exec_register {disk newDisk : Disk} {path : Path} {text className name : String}
    {mode : Nat} (found : disk.look path = .ok (some (.file (encode text) mode)))
    (registered : exec (register path className name) disk = (.ok .registered, newDisk)) :
    ∃ newText,
      registeredText (feedLines text.toList) className.toList name.toList = .ok newText ∧
      exec (DiskAction.writeWhole path (String.ofList newText)) (afterRead disk) =
        (.ok (), newDisk) := by
  rw [exec_register_of_file found] at registered
  cases read : DiskAction.textAt disk path with
  | error fault =>
    rw [read] at registered
    cases registered
  | ok readText =>
    obtain ⟨-, held, decoded, rfl⟩ := (textAt_eq_ok_iff found).1 read
    rw [decode_encode, Except.ok.injEq] at decoded
    subst decoded
    rw [read] at registered
    simp only [String.toList_ofList] at registered
    cases registersIn_of_isRegistered registered rfl with
    | written edited written => exact ⟨_, edited, written⟩

/-- The text that a file held is recovered from the text that a registration left in it if no return
stood outside a blank list and the last import line did not end in the list, and in no other case. -/
theorem exists_recoveredFrom_iff {disk newDisk : Disk} {path : Path}
    {text className name : String} {mode : Nat} (sound : disk.Sound)
    (found : disk.look path = .ok (some (.file (encode text) mode)))
    (classNamed : IsClassName className.toList) (named : IsName name.toList)
    (registered : exec (register path className name) disk = (.ok .registered, newDisk)) :
    ∃ document newText, Document.parse text.toList = .ok document ∧
      newDisk.look path = .ok (some (.file (encode newText) mode)) ∧
      (document.RecoveredFrom className.toList name.toList newText.toList ↔
        document.IsRecoverable className.toList) := by
  obtain ⟨newText, edited, written⟩ := exists_of_exec_register found registered
  obtain ⟨read, parsedRead, rfl⟩ := exists_of_registeredText edited
  obtain ⟨document, parsed⟩ := exists_parse_of_feedLines parsedRead
  have soundRead : (afterRead disk).Sound := ⟨sound.tree, sound.start⟩
  have foundRead : (afterRead disk).look path = .ok (some (.file (encode text) mode)) := found
  have wrote := DiskAction.wrote_writeWhole soundRead path
    (String.ofList (read.editedText className.toList name.toList))
  rw [written] at wrote
  refine ⟨document, _, parsed, wrote.look_eq foundRead, ?_⟩
  rw [String.toList_ofList]
  exact Document.recoveredFrom_iff parsed parsedRead classNamed named

theorem exists_recoveredFrom_of_return_in_blank :
    ∃ disk newDisk document newText, Disk.Sound disk ∧
      disk.look ⟨.relative, ["M.php"]⟩ =
        .ok (some (.file (encode "use A\\B;\ndeclarations: [\r\n]\n") 0o644)) ∧
      IsClassName "A\\C".toList ∧ IsName "C".toList ∧
      exec (register ⟨.relative, ["M.php"]⟩ "A\\C" "C") disk = (.ok .registered, newDisk) ∧
      Document.parse "use A\\B;\ndeclarations: [\r\n]\n".toList = .ok document ∧
      newDisk.look ⟨.relative, ["M.php"]⟩ = .ok (some (.file (encode newText) 0o644)) ∧
      document.RecoveredFrom "A\\C".toList "C".toList newText.toList := by
  have replaceable := replaceable_withFile (by decide : "M.php" ≠ "..") (by decide) (by decide)
    (by decide) (encode "use A\\B;\ndeclarations: [\r\n]\n") 0o644
  have edited : registeredText (feedLines "use A\\B;\ndeclarations: [\r\n]\n".toList)
      "A\\C".toList "C".toList =
        .ok "use A\\B;\nuse A\\C;\ndeclarations: [\n    C::class,\n]\n".toList := by
    decide +kernel
  obtain ⟨newDisk, registered, -⟩ :=
    exec_register_of_replaceable replaceable (by decide +kernel) edited
  have classNamed : IsClassName "A\\C".toList := by decide
  have named : IsName "C".toList := by decide
  have parsed : Document.parse "use A\\B;\ndeclarations: [\r\n]\n".toList =
      .ok ⟨"use A\\B;\ndeclarations: [\r\n]\n".toList, 9, 24, 26⟩ := by
    decide +kernel
  obtain ⟨document, newText, found, written, recovered⟩ :=
    exists_recoveredFrom_iff replaceable.sound replaceable.found classNamed named registered
  rw [parsed, Except.ok.injEq] at found
  subst found
  refine ⟨_, newDisk, _, newText, replaceable.sound, replaceable.found, classNamed, named,
    registered, parsed, written, recovered.2 ⟨?_, ?_, ?_⟩⟩
  · decide +kernel
  · decide +kernel
  · decide +kernel

theorem not_recoveredFrom_of_two_returns :
    ∃ disk newDisk document, Disk.Sound disk ∧
      disk.look ⟨.relative, ["M.php"]⟩ = .ok (some (.file
        (encode "use A\\B;\r\ndeclarations: [\r\n    B::class,\r\n]\r\n") 0o644)) ∧
      exec (register ⟨.relative, ["M.php"]⟩ "A\\C" "C") disk = (.ok .registered, newDisk) ∧
      newDisk.look ⟨.relative, ["M.php"]⟩ = .ok (some (.file
        (encode "use A\\B;\nuse A\\C;\ndeclarations: [\n    B::class,\n    C::class,\n]\n")
        0o644)) ∧
      Document.parse "use A\\B;\r\ndeclarations: [\r\n    B::class,\r\n]\r\n".toList =
        .ok document ∧
      ¬document.RecoveredFrom "A\\C".toList "C".toList
        "use A\\B;\nuse A\\C;\ndeclarations: [\n    B::class,\n    C::class,\n]\n".toList := by
  have replaceable := replaceable_withFile (by decide : "M.php" ≠ "..") (by decide) (by decide)
    (by decide) (encode "use A\\B;\r\ndeclarations: [\r\n    B::class,\r\n]\r\n") 0o644
  have edited : registeredText
      (feedLines "use A\\B;\r\ndeclarations: [\r\n    B::class,\r\n]\r\n".toList)
      "A\\C".toList "C".toList = .ok
        "use A\\B;\nuse A\\C;\ndeclarations: [\n    B::class,\n    C::class,\n]\n".toList := by
    decide +kernel
  obtain ⟨newDisk, registered, again⟩ :=
    exec_register_of_replaceable replaceable (by decide +kernel) edited
  rw [String.ofList_toList] at again
  have parsed : Document.parse "use A\\B;\r\ndeclarations: [\r\n    B::class,\r\n]\r\n".toList =
      .ok ⟨"use A\\B;\r\ndeclarations: [\r\n    B::class,\r\n]\r\n".toList, 10, 25, 42⟩ := by
    decide +kernel
  refine ⟨_, newDisk, _, replaceable.sound, replaceable.found, registered, again.found, parsed,
    fun recovered => ?_⟩
  exact (recovered.return_not_mem (by decide)).1 (by decide +kernel)

end Scaffold.Composition
