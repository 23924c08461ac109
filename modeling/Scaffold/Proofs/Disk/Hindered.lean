import Scaffold.Proofs.Disk.Along

/-!
# What hindered writes leave

A temporary file takes a place that was free, so the disk is as it was once the file is removed. It
is either put in place of the file that is written, or removed, or left over where the removal is
hindered too.
-/

set_option autoImplicit false

namespace Scaffold

namespace DiskAction

variable {path : Path} {disk : Disk} {temporary place : Place}

/-- Publishing a temporary file ends with it under its new path, or with it still in place. -/
theorem exec_publishHindered (hindrance : Hindrance) (octets : ByteArray) (mode : Nat)
    (absent : disk.tree.item? temporary = none) (found : disk.placeOf path = .ok place)
    (apart : disk.tree.item? place = some .directory ∨ place ≠ temporary) :
    (∃ fault item injection,
      exec (publishHindered hindrance temporary path octets mode) (withTemporary disk temporary) =
        (.error fault, { disk with tree := disk.tree.put temporary item, injection })) ∨
    disk.tree.item? place ≠ some .directory ∧ ∃ injection,
      exec (publishHindered hindrance temporary path octets mode) (withTemporary disk temporary) =
        (.ok (), { disk with tree := disk.tree.put place (.file octets mode), injection }) := by
  rw [publishHindered, withTemporary, exec_bind]
  unfold fillHindered
  cases hindrance.writeFault .fill with
  | some fault =>
    refine .inl ⟨fault, .file hindrance.partly 0o600, disk.injection, ?_⟩
    simp [Tree.put_put]
  | none =>
    simp only [exec_fill]
    cases disk.injection.writes 0 with
    | some fault => exact .inl ⟨_, _, _, rfl⟩
    | none =>
      simp only [Tree.put_put, exec_bind]
      cases hindrance.writeFault .permit with
      | some fault => exact .inl ⟨_, _, _, rfl⟩
      | none =>
        simp only [unlessHindered_none, exec_permit (Tree.ne_root_of_item? absent)]
        cases hindrance.writeFault .rename with
        | some fault => exact .inl ⟨_, _, _, rfl⟩
        | none =>
          rw [unlessHindered_none, exec_rename absent found apart]
          cases (afterWrite disk.injection).renames 0 with
          | some fault => exact .inl ⟨_, _, _, rfl⟩
          | none =>
            by_cases directory : disk.tree.item? place = some .directory
            · exact .inl ⟨_, _, _, if_pos directory⟩
            · exact .inr ⟨directory, _, if_neg directory⟩

theorem exec_replaceHindered (hindrance : Hindrance) (octets : ByteArray) (mode : Nat)
    (absent : disk.tree.item? temporary = none) (found : disk.placeOf path = .ok place)
    (apart : disk.tree.item? place = some .directory ∨ place ≠ temporary) :
    (∃ fault injection,
      exec (replaceHindered hindrance temporary path octets mode) (withTemporary disk temporary) =
        (.error fault, { disk with injection })) ∨
    (hindrance.fault .discard ≠ none ∧ ∃ fault item injection,
      exec (replaceHindered hindrance temporary path octets mode) (withTemporary disk temporary) =
        (.error fault, { disk with tree := disk.tree.put temporary item, injection })) ∨
    disk.tree.item? place ≠ some .directory ∧ ∃ injection,
      exec (replaceHindered hindrance temporary path octets mode) (withTemporary disk temporary) =
        (.ok (), { disk with tree := disk.tree.put place (.file octets mode), injection }) := by
  rw [replaceHindered, exec_tryCatch]
  rcases exec_publishHindered hindrance octets mode absent found apart with
    ⟨fault, item, injection, failed⟩ | ⟨notDirectory, injection, published⟩
  · rw [failed]
    simp only [Hindrance.writeFault, exec_bind]
    cases hindrance.fault .discard with
    | none =>
      rw [Option.map_none, unlessHindered_none, exec_discard absent]
      exact .inl ⟨fault, injection, rfl⟩
    | some last => exact .inr (.inl ⟨Option.some_ne_none last, .disk last, item, injection, rfl⟩)
  · rw [published]
    exact .inr (.inr ⟨notDirectory, injection, rfl⟩)

/-! ## What is left -/

/-- What a hindered write leaves: the disk with directories made along the path, and besides the file
with all its octets if it succeeds, or if the temporary file could not be removed that file. -/
inductive WroteHindered (hindrance : Hindrance) (disk : Disk) (path : Path) (octets : ByteArray) :
    Except WriteFault Unit × Disk → Prop where
  | failed {grown : Disk} {injection : Injection} {fault : WriteFault} :
      disk.GrowsTo grown → disk.MadeAlong path.parent grown →
      WroteHindered hindrance disk path octets (.error fault, { grown with injection })
  | leftOver {grown : Disk} {injection : Injection} {fault : WriteFault} {directory : Place}
      {number : Nat} {item : Item} :
      disk.GrowsTo grown → disk.MadeAlong path.parent grown → hindrance.fault .discard ≠ none →
      grown.placeOf path.parent = .ok directory →
      grown.tree.item? directory = some .directory →
      grown.tree.item? (directory ++ [temporaryName path.name number]) = none →
      WroteHindered hindrance disk path octets (.error fault, { grown with
        tree := grown.tree.put (directory ++ [temporaryName path.name number]) item
        injection })
  | written {grown : Disk} {injection : Injection} {place : Place} :
      disk.GrowsTo grown → disk.MadeAlong path.parent grown → path.hasNull = false →
      grown.placeOf path = .ok place → grown.tree.item? place ≠ some .directory →
      WroteHindered hindrance disk path octets (.ok (), { grown with
        tree := grown.tree.put place (.file octets (modeAt grown (grown.tree.item? place)))
        injection })

theorem wroteHindered_writeBesideHindered {grown : Disk} (hindrance : Hindrance)
    (octets : ByteArray) (grows : disk.GrowsTo grown) (made : disk.MadeAlong path.parent grown)
    (sound : grown.Sound) (named : path.hasNull = false)
    (parent : grown.look path.parent = .ok (some .directory)) :
    WroteHindered hindrance disk path octets
      (exec (writeBesideHindered hindrance path octets) grown) := by
  rw [writeBesideHindered, exec_bind]
  cases hindrance.writeFault .lookUpMode with
  | some fault => exact .failed grows made
  | none =>
    rw [unlessHindered_none, exec_modeFor]
    cases looked : grown.look path with
    | error fault => exact .failed grows made
    | ok seen =>
      obtain ⟨place, led, seen_eq, apart⟩ := placeOf_of_parent parent named looked
      simp only [Except.mapError, Except.map, exec_bind]
      cases hindrance.writeFault .makeTemporary with
      | some fault => exact .failed grows made
      | none =>
        rw [unlessHindered_none]
        rcases exec_makeTemporary path grown with ⟨fault, stopped⟩ | ⟨directory, name, temporary⟩
        · rw [stopped]
          exact .failed grows made
        · obtain ⟨absent, number, rfl⟩ := freeName?_eq_some temporary.free
          have above : grown.tree.item? directory = some .directory := by
            obtain ⟨-, _, led, present⟩ := Disk.look_eq_ok_some_iff.1 parent
            cases temporary.parent.symm.trans led
            exact present
          simp only [exec_makeTemporary_of_hasTemporary temporary]
          rcases exec_replaceHindered hindrance octets (modeAt grown seen) absent led
              (temporary.apart (seen_eq ▸ apart sound)) with
            ⟨fault, injection, failed⟩ | ⟨stuck, fault, item, injection, failed⟩ |
              ⟨notDirectory, injection, published⟩
          · rw [failed]
            exact .failed grows made
          · rw [failed]
            exact .leftOver grows made stuck temporary.parent above absent
          · rw [published, ← seen_eq]
            exact .written grows made named led notDirectory

theorem wroteHindered_writeHindered (hindrance : Hindrance) (sound : disk.Sound) (path : Path)
    (content : String) :
    WroteHindered hindrance disk path (Text.encode content)
      (exec (writeHindered hindrance path content) disk) := by
  obtain ⟨grows, made, there⟩ := exec_makeDirectoriesHindered hindrance path.parent disk
  rw [writeHindered, exec_bind]
  cases ran : exec (makeDirectoriesHindered hindrance path.parent) disk with
  | mk result grown =>
    rw [ran] at grows made there
    cases result with
    | error fault => exact .failed grows made
    | ok =>
      cases named : path.hasNull with
      | true => exact .failed grows made
      | false =>
        exact wroteHindered_writeBesideHindered hindrance _ grows made (grows.sound sound) named
          (there rfl)

end DiskAction

end Scaffold
