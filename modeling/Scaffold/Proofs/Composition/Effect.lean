import Scaffold.Proofs.Composition.Register
import Scaffold.Proofs.Disk.Extends

/-!
# What a registration does to a disk

A registration rewrites the file that it is asked for or leaves all files as they are. It fails only
where the disk cannot tell whether the file is there.
-/

set_option autoImplicit false

namespace Scaffold.Composition

open DiskAction (afterRead)

variable {disk : Disk} {path : Path}

theorem extends_afterRead (disk : Disk) :
    disk.Extends (afterRead disk) (fun _ _ => False) (fun _ => False) :=
  (Disk.Extends.refl disk).inject _

/-- A new text that is written to a file that is there rewrites the file at its place. -/
theorem exec_write_of_file (sound : disk.Sound) {octets : ByteArray} {mode : Nat}
    (found : disk.look path = .ok (some (.file octets mode))) (text : List Char) :
    ∃ outcome new, exec (write path text) disk = (.ok outcome, new) ∧
      disk.Extends new (fun _ _ => False)
        (fun place => outcome = .registered ∧ disk.placeOf path = .ok place) := by
  have wrote := DiskAction.wrote_writeWhole sound path (String.ofList text)
  rw [exec_write]
  cases ran : exec (DiskAction.writeWhole path (String.ofList text)) disk with
  | mk result new =>
    rw [ran] at wrote
    cases result with
    | ok =>
      exact ⟨.registered, new, rfl,
        (wrote.extends_of_file found).imp nofun fun place led => ⟨rfl, led⟩⟩
    | error fault =>
      have extended := wrote.extends_of_failed
      cases fault with
      | disk fault => exact ⟨_, new, rfl, extended.imp nofun nofun⟩
      | nullCharacter =>
        cases wrote with
        | failed _ _ unnameable =>
          have named := (Disk.look_eq_ok_some_iff.1 found).1
          rw [unnameable rfl] at named
          cases named

theorem exec_registerIn_of_file (sound : disk.Sound) {octets : ByteArray} {mode : Nat}
    (found : disk.look path = .ok (some (.file octets mode))) (className name text : List Char) :
    ∃ outcome new, exec (registerIn path className name text) disk = (.ok outcome, new) ∧
      disk.Extends new (fun _ _ => False)
        (fun place => outcome = .registered ∧ disk.placeOf path = .ok place) := by
  unfold registerIn
  by_cases refers : refersTo name text = true
  · rw [if_pos refers]
    exact ⟨_, disk, rfl, (Disk.Extends.refl disk).imp nofun nofun⟩
  · rw [if_neg refers]
    cases registeredText text className name with
    | error fault => exact ⟨_, disk, rfl, (Disk.Extends.refl disk).imp nofun nofun⟩
    | ok newText => exact exec_write_of_file sound found newText

/-- A registration fails where the disk cannot tell what is at the path. In every other case it has an
outcome, and only the file at the path may have been rewritten. -/
theorem exec_register_cases (sound : disk.Sound) (path : Path) (className name : String) :
    (∃ fault, disk.look path = .error fault ∧
      exec (register path className name) disk = (.error (.disk fault), disk)) ∨
    (∃ seen, disk.look path = .ok seen) ∧
      ∃ outcome new, exec (register path className name) disk = (.ok outcome, new) ∧
        disk.Extends new (fun _ _ => False)
          (fun place => outcome = .registered ∧ disk.placeOf path = .ok place) := by
  rw [exec_register]
  cases looked : disk.look path with
  | error fault => exact .inl ⟨fault, rfl, rfl⟩
  | ok seen =>
    refine .inr ⟨⟨seen, rfl⟩, ?_⟩
    cases seen with
    | none => exact ⟨_, disk, rfl, (Disk.Extends.refl disk).imp nofun nofun⟩
    | some item =>
      cases item with
      | directory => exact ⟨_, disk, rfl, (Disk.Extends.refl disk).imp nofun nofun⟩
      | file octets mode =>
        simp only [Option.any_some, Item.isFile, if_true, DiskAction.exec_readText]
        cases DiskAction.textAt disk path with
        | error fault => exact ⟨_, _, rfl, (extends_afterRead disk).imp nofun nofun⟩
        | ok text =>
          have soundRead : (afterRead disk).Sound := ⟨sound.tree, sound.start⟩
          have foundRead : (afterRead disk).look path = .ok (some (.file octets mode)) := looked
          obtain ⟨outcome, new, ran, extended⟩ :=
            exec_registerIn_of_file soundRead foundRead className.toList name.toList text.toList
          refine ⟨outcome, new, ran, ((extends_afterRead disk).trans extended).imp ?_ ?_⟩
          · rintro place octets (none | ⟨first, none, -⟩) <;> exact none
          · rintro place (none | rewritten)
            · cases none
            · exact rewritten

end Scaffold.Composition
