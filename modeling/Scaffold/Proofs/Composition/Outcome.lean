import Scaffold.Proofs.Composition.Rewrite

/-!
# What the outcome of a registration tells

A registration that is reported as done has replaced the octets of one file by those of its edited
text. With every other outcome the tree is the one that was there before, whichever step failed.
-/

set_option autoImplicit false

namespace Scaffold.Composition

open Text
open DiskAction (afterRead)

variable {disk newDisk : Disk} {path : Path} {outcome : Outcome}

theorem exists_of_registeredText_eq {text className name newText : List Char}
    (registered : registeredText text className name = .ok newText) :
    ∃ document edited, Document.parse text = .ok document ∧
      document.register className name = (edited, .ok ()) ∧ edited.text = newText := by
  cases parsed : Document.parse text with
  | error fault => simp [registeredText, parsed, bind, Except.bind] at registered
  | ok document =>
    refine ⟨document, ?_⟩
    simp only [registeredText, parsed, bind, Except.bind] at registered
    cases edits : document.register className name with
    | mk edited result =>
      rw [edits] at registered
      cases result with
      | error fault => cases registered
      | ok => exact ⟨edited, rfl, rfl, Except.ok.inj registered⟩

/-- What a registration leaves with its outcome: the disk as it was, or one with the text of the edited
document put at the place of the file. -/
inductive Leaves (disk : Disk) (path : Path) (octets : ByteArray) (className name : List Char) :
    Outcome → Disk → Prop where
  | untouched {outcome : Outcome} {injection : Injection} : outcome ≠ .registered →
      Leaves disk path octets className name outcome { disk with injection }
  | rewritten {place : Place} {mode : Nat} {held : String} {document edited : Document}
      {injection : Injection} :
      disk.placeOf path = .ok place → disk.tree.item? place = some (.file octets mode) →
      decode octets = .ok held → Document.parse (feedLines held.toList) = .ok document →
      document.register className name = (edited, .ok ()) →
      Leaves disk path octets className name .registered { disk with
        tree := disk.tree.put place (.file (encode (String.ofList edited.text)) mode)
        injection }

section

variable {octets : ByteArray} {mode : Nat} {held : String} {className name : List Char}
  {injection : Injection}

theorem leaves_of_write {document edited : Document} (sound : disk.Sound)
    (found : disk.look path = .ok (some (.file octets mode))) (decoded : decode octets = .ok held)
    (parsed : Document.parse (feedLines held.toList) = .ok document)
    (registered : document.register className name = (edited, .ok ()))
    (ended : exec (write path edited.text) { disk with injection } = (.ok outcome, newDisk)) :
    Leaves disk path octets className name outcome newDisk := by
  have soundThen : Disk.Sound { disk with injection } := ⟨sound.tree, sound.start⟩
  have wrote := DiskAction.wroteBeside_writeWhole soundThen found (String.ofList edited.text)
  obtain ⟨-, place, led, present⟩ := Disk.look_eq_ok_some_iff.1 found
  rw [exec_write] at ended
  cases ran : exec (DiskAction.writeWhole path (String.ofList edited.text))
      { disk with injection } with
  | mk result last =>
    rw [ran] at wrote ended
    cases wrote with
    | failed =>
      cases ended
      exact .untouched nofun
    | @written _ target _ ledThen =>
      obtain rfl : place = target := Except.ok.inj (led.symm.trans ledThen)
      cases ended
      have kept : DiskAction.modeAt { disk with injection } (disk.tree.item? place) = mode := by
        rw [present]
        rfl
      rw [kept]
      exact .rewritten led present decoded parsed registered

theorem leaves_of_registerIn (sound : disk.Sound)
    (found : disk.look path = .ok (some (.file octets mode))) (decoded : decode octets = .ok held)
    (ended : exec (registerIn path className name (feedLines held.toList))
      { disk with injection } = (.ok outcome, newDisk)) :
    Leaves disk path octets className name outcome newDisk := by
  unfold registerIn at ended
  split at ended
  · cases ended
    exact .untouched nofun
  · cases edits : registeredText (feedLines held.toList) className name with
    | error fault =>
      rw [edits] at ended
      cases ended
      exact .untouched nofun
    | ok newText =>
      rw [edits] at ended
      obtain ⟨document, edited, parsed, registered, rfl⟩ := exists_of_registeredText_eq edits
      exact leaves_of_write sound found decoded parsed registered ended

end

theorem exists_leaves_of_register {className name : String} (sound : disk.Sound)
    (ended : exec (register path className name) disk = (.ok outcome, newDisk)) :
    ∃ octets, Leaves disk path octets className.toList name.toList outcome newDisk := by
  rw [exec_register] at ended
  cases looked : disk.look path with
  | error fault =>
    rw [looked] at ended
    cases ended
  | ok seen =>
    rw [looked] at ended
    simp only at ended
    by_cases isFile : seen.any Item.isFile = true
    · obtain ⟨octets, mode, rfl⟩ := Item.any_isFile_iff.1 isFile
      refine ⟨octets, ?_⟩
      rw [if_pos isFile, DiskAction.exec_readText] at ended
      cases read : DiskAction.textAt disk path with
      | error fault =>
        rw [read] at ended
        cases ended
        exact .untouched nofun
      | ok text =>
        obtain ⟨-, held, decoded, rfl⟩ := (textAt_eq_ok_iff looked).1 read
        rw [read] at ended
        simp only [String.toList_ofList] at ended
        exact leaves_of_registerIn sound looked decoded ended
    · rw [if_neg isFile] at ended
      cases ended
      exact ⟨.empty, .untouched nofun⟩

/-- A registration with any outcome but the one of success leaves the tree as it was. With that one, the
file has the text of its document after the registration and the permissions it had, and everything
else in the tree is as it was. -/
theorem tree_of_exec_register {className name : String} (sound : disk.Sound)
    (ended : exec (register path className name) disk = (.ok outcome, newDisk)) :
    (outcome ≠ .registered → newDisk.tree = disk.tree) ∧
    (outcome = .registered → ∃ place octets mode held document edited,
      disk.placeOf path = .ok place ∧ disk.tree.item? place = some (.file octets mode) ∧
      decode octets = .ok held ∧ Document.parse (feedLines held.toList) = .ok document ∧
      document.register className.toList name.toList = (edited, .ok ()) ∧
      newDisk.tree.item? place = some (.file (encode (String.ofList edited.text)) mode) ∧
      ∀ other, other ≠ place → newDisk.tree.item? other = disk.tree.item? other) := by
  obtain ⟨octets, leaves⟩ := exists_leaves_of_register sound ended
  cases leaves with
  | untouched notDone => exact ⟨fun _ => rfl, fun done => absurd done notDone⟩
  | @rewritten place mode held document edited _ led present decoded parsed registered =>
    have root : place ≠ [] := by
      rintro rfl
      cases present
    refine ⟨fun notDone => absurd rfl notDone, fun _ => ⟨place, octets, mode, held, document, edited,
      led, present, decoded, parsed, registered, ?_, fun other apart => ?_⟩⟩
    · rw [Tree.item?_put _ _ _ _ root, if_pos rfl]
    · rw [Tree.item?_put _ _ _ _ root, if_neg apart]

theorem tree_of_exec_register_of_full_disk :
    ∃ disk full newDisk newFull, Disk.Sound disk ∧ Disk.Sound full ∧ full.tree = disk.tree ∧
      exec (register ⟨.relative, ["M.php"]⟩ "A\\C" "C") disk = (.ok .registered, newDisk) ∧
      exec (register ⟨.relative, ["M.php"]⟩ "A\\C" "C") full =
        (.ok (.unwritable "[Errno 28] No space left on device"), newFull) ∧
      (∃ place octets mode, disk.tree.item? place = some (.file octets mode) ∧
        (∃ content, newDisk.tree.item? place = some (.file (encode content) mode)) ∧
        ∀ other, other ≠ place → newDisk.tree.item? other = disk.tree.item? other) ∧
      newFull.tree = full.tree := by
  have replaceable := replaceable_withFile (by decide : "M.php" ≠ "..") (by decide) (by decide)
    (by decide) (encode "use A\\B;\ndeclarations: [\n    B::class,\n]\n") 0o644
  generalize withFile_eq : Disk.withFile "M.php"
    (encode "use A\\B;\ndeclarations: [\n    B::class,\n]\n") 0o644 = disk at replaceable
  have sound := replaceable.sound
  have soundFull : Disk.Sound { disk with
      injection := ⟨.quiet, .failAfter 0 ⟨some 28, "No space left on device"⟩, .quiet⟩ } := ⟨sound.tree, sound.start⟩
  obtain ⟨newDisk, ended⟩ := exists_exec_eq
    (show (exec (register ⟨.relative, ["M.php"]⟩ "A\\C" "C") disk).1 = .ok .registered by
      rw [← withFile_eq]
      decide +kernel)
  obtain ⟨newFull, endedFull⟩ := exists_exec_eq
    (show (exec (register ⟨.relative, ["M.php"]⟩ "A\\C" "C") { disk with
        injection := ⟨.quiet, .failAfter 0 ⟨some 28, "No space left on device"⟩, .quiet⟩ }).1 =
          .ok (.unwritable "[Errno 28] No space left on device") by
      rw [← withFile_eq]
      decide +kernel)
  obtain ⟨place, octets, mode, -, -, edited, -, present, -, -, -, now, others⟩ :=
    (tree_of_exec_register sound ended).2 rfl
  exact ⟨disk, _, newDisk, newFull, sound, soundFull, rfl, ended, endedFull,
    ⟨place, octets, mode, present, ⟨_, now⟩, others⟩,
    (tree_of_exec_register soundFull endedFull).1 nofun⟩

end Scaffold.Composition
