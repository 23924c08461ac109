import Scaffold.Composition.Register
import Scaffold.Proofs.Composition.Run
import Scaffold.Proofs.Disk.Looking
import Scaffold.Proofs.Disk.Replace
import Scaffold.Proofs.Text.Lines

/-!
# Registration in a file

Classes registered in a composition file in turn. On a disk without faults each of them is, the file
then refers to it and to no other class besides those before, and the order of the classes is the
order of their lines and entries.
-/

set_option autoImplicit false

namespace Scaffold.Composition

open Text
open DiskAction (afterRead)

/-! ## Reading and writing -/

theorem exec_readText {disk : Disk} {path : Path} {text : String} {mode : Nat}
    (found : disk.look path = .ok (some (.file (encode text) mode))) :
    exec (DiskAction.readText path) disk =
      match disk.injection.reads 0 with
      | some fault => (.error (.disk fault), afterRead disk)
      | none => (.ok (String.ofList (feedLines text.toList)), afterRead disk) := by
  rw [DiskAction.exec_readText, DiskAction.textAt, Disk.status_of_look found]
  cases disk.injection.reads 0 with
  | some fault => rfl
  | none => simp [decode_encode]

theorem exec_readText_of_replaceable {disk : Disk} {path : Path} {text : String} {mode : Nat}
    (replaceable : Replaceable disk path (encode text) mode) :
    exec (DiskAction.readText path) disk =
      (.ok (String.ofList (feedLines text.toList)), disk) := by
  obtain ⟨-, quiet, found, -⟩ := replaceable
  have reads : disk.injection.reads 0 = none := by rw [quiet]; rfl
  rw [exec_readText found, reads, DiskAction.afterRead_of_quiet quiet]

theorem exec_register (path : Path) (className name : String) (disk : Disk) :
    exec (register path className name) disk =
      match disk.look path with
      | .error fault => (.error (.disk fault), disk)
      | .ok seen =>
        if seen.any Item.isFile then
          match exec (DiskAction.readText path) disk with
          | (.error fault, disk) => (.ok (.unwritable fault.message), disk)
          | (.ok text, disk) =>
            exec (registerIn path className.toList name.toList text.toList) disk
        else (.ok .missingFile, disk) := by
  simp only [register, exec_bind, exec_adapt, DiskAction.exec_isFile]
  cases disk.look path with
  | error fault => rfl
  | ok seen =>
    cases isFile : Option.any Item.isFile seen with
    | false => simp [Except.map, isFile]
    | true =>
      simp only [Except.map, isFile, if_true, exec_bind, exec_get]
      have run_eq : (DiskAction.readText path).run.run disk = exec (DiskAction.readText path) disk :=
        rfl
      rw [run_eq]
      cases exec (DiskAction.readText path) disk with
      | mk result disk => cases result <;> rfl

theorem exec_write (path : Path) (text : List Char) (disk : Disk) :
    exec (write path text) disk =
      match exec (DiskAction.writeWhole path (String.ofList text)) disk with
      | (.ok (), disk) => (.ok .registered, disk)
      | (.error (.disk fault), disk) => (.ok (.unwritable fault.message), disk)
      | (.error .nullCharacter, disk) => (.error .nullCharacter, disk) := by
  simp only [write, exec_tryCatch, exec_bind]
  cases exec (DiskAction.writeWhole path (String.ofList text)) disk with
  | mk result disk =>
    cases result with
    | ok => rfl
    | error fault => cases fault <;> rfl

/-! ## One class after the other -/

def registerInTurn (path : Path) : List (String × String) → DiskAction WriteFault (List Outcome)
  | [] => return []
  | (className, name) :: classes => do
    let outcome ← register path className name
    return outcome :: (← registerInTurn path classes)

theorem Layout.Clear.registeredText_eq {layout : Layout} {opening : Nat}
    {className name : List Char} (clear : layout.Clear opening)
    (classNamed : IsClassName className) (named : IsName name) :
    registeredText layout.text className name = .ok (layout.register className name).text := by
  have text_eq : (layout.register className name).document.text =
      (layout.register className name).text := rfl
  simp only [registeredText, clear.parse_eq, clear.register_eq classNamed named, bind, Except.bind,
    pure, Except.pure, text_eq]

theorem exec_register_of_replaceable {disk : Disk} {path : Path} {text className name : String}
    {newText : List Char} {mode : Nat} (replaceable : Replaceable disk path (encode text) mode)
    (fresh : refersTo name.toList (feedLines text.toList) = false)
    (registered : registeredText (feedLines text.toList) className.toList name.toList = .ok newText) :
    ∃ newDisk, exec (register path className name) disk = (.ok .registered, newDisk) ∧
      Replaceable newDisk path (encode (String.ofList newText)) mode := by
  obtain ⟨place, -, written, again⟩ := replaceable.exec_writeWhole (String.ofList newText)
  refine ⟨_, ?_, again⟩
  rw [exec_register, replaceable.found, exec_readText_of_replaceable replaceable]
  simp only [Option.any_some, Item.isFile, if_true, String.toList_ofList, registerIn, fresh,
    Bool.false_eq_true, if_false, registered, exec_write, written]

/-- One step of a run on the disk is one step of a run on the text. -/
theorem Layout.Clear.exec_register {layout : Layout} {opening mode : Nat} {disk : Disk}
    {path : Path} {className name : String} (clear : layout.Clear opening)
    (noReturn : '\r' ∉ layout.text)
    (replaceable : Replaceable disk path (encode (String.ofList layout.text)) mode)
    (classNamed : IsClassName className.toList) (named : IsName name.toList)
    (fresh : refersTo name.toList layout.text = false) :
    ∃ newDisk, exec (Composition.register path className name) disk = (.ok .registered, newDisk) ∧
      Replaceable newDisk path
        (encode (String.ofList (layout.register className.toList name.toList).text)) mode := by
  refine exec_register_of_replaceable replaceable ?_ ?_
  · rwa [String.toList_ofList, feedLines_eq_self noReturn]
  · rw [String.toList_ofList, feedLines_eq_self noReturn,
      clear.registeredText_eq classNamed named]

theorem Layout.Clear.exec_registerInTurn {layout : Layout} {opening mode : Nat} {disk : Disk}
    {path : Path} {classes : List (String × String)} (clear : layout.Clear opening)
    (noReturn : '\r' ∉ layout.text)
    (replaceable : Replaceable disk path (encode (String.ofList layout.text)) mode)
    (named : ∀ names ∈ classes, IsClassName names.1.toList ∧ IsName names.2.toList)
    (distinct : (classes.map Prod.snd).Nodup)
    (fresh : ∀ names ∈ classes, refersTo names.2.toList layout.text = false) :
    ∃ newDisk,
      exec (registerInTurn path classes) disk =
        (.ok (classes.map fun _ => .registered), newDisk) ∧
      Replaceable newDisk path
        (encode (String.ofList (layout.registerEach
          (classes.map fun names => (names.1.toList, names.2.toList))).text)) mode := by
  induction classes generalizing layout opening disk with
  | nil => exact ⟨disk, rfl, replaceable⟩
  | cons names classes ih =>
    obtain ⟨className, name⟩ := names
    obtain ⟨⟨classNamed, nameNamed⟩, namedRest⟩ := List.forall_mem_cons.1 named
    obtain ⟨freshName, freshRest⟩ := List.forall_mem_cons.1 fresh
    rw [List.map_cons, List.nodup_cons] at distinct
    obtain ⟨newDisk, registered, again⟩ :=
      clear.exec_register noReturn replaceable classNamed nameNamed freshName
    obtain ⟨newOpening, newClear⟩ := clear.register classNamed nameNamed
    have newReturn := clear.return_not_mem_register noReturn classNamed nameNamed
    have newFresh : ∀ names ∈ classes, refersTo names.2.toList
        (layout.register className.toList name.toList).text = false := by
      intro names member
      have different : names.2.toList ≠ name.toList := fun same => by
        have listed : names.2 ∈ classes.map Prod.snd := List.mem_map_of_mem member
        rw [String.toList_inj.1 same] at listed
        exact distinct.1 listed
      rw [clear.refersTo_register classNamed nameNamed (namedRest names member).2,
        freshRest names member]
      simp [different]
    obtain ⟨lastDisk, rest, last⟩ := ih newClear newReturn again namedRest distinct.2 newFresh
    refine ⟨lastDisk, ?_, last⟩
    simp only [registerInTurn, exec_bind, registered, rest, exec_pure, List.map_cons]

/-- What is left on a disk when classes have been registered in turn in a file with a layout: each
of them is registered, listed in turn, imported and referred to, and the text is that of the layout
with the lines that import them and their entries put into both places. -/
structure RegistersInTurn (path : Path) (mode : Nat) (layout : Layout) (disk : Disk)
    (classes : List (String × String)) (newDisk : Disk) (final : Document) : Prop where
  outcomes :
    exec (registerInTurn path classes) disk = (.ok (classes.map fun _ => .registered), newDisk)
  file : newDisk.look path = .ok (some (.file (encode (String.ofList final.text)) mode))
  parse_eq : Document.parse final.text = .ok final
  declarations_eq : final.declarations =
    layout.document.declarations ++ classes.map fun names => reference names.2.toList
  imported : ∀ names ∈ classes, importLine names.1.toList ∈ final.imports
  refersTo_eq : ∀ other, IsName other.toList →
    final.refersTo other.toList =
      (layout.document.refersTo other.toList || decide (other ∈ classes.map Prod.snd))
  text_eq : final.text = (layout.withClasses
    (addedLines layout.document.imports (classes.map fun names => importLine names.1.toList))
    (classes.map fun names => reference names.2.toList)).text

theorem Layout.Clear.exists_registersInTurn {layout : Layout} {opening mode : Nat} {disk : Disk}
    {path : Path} {classes : List (String × String)} (clear : layout.Clear opening)
    (noReturn : '\r' ∉ layout.text)
    (replaceable : Replaceable disk path (encode (String.ofList layout.text)) mode)
    (named : ∀ names ∈ classes, IsClassName names.1.toList ∧ IsName names.2.toList)
    (distinct : (classes.map Prod.snd).Nodup)
    (fresh : ∀ names ∈ classes, refersTo names.2.toList layout.text = false) :
    ∃ newDisk final, RegistersInTurn path mode layout disk classes newDisk final := by
  obtain ⟨newDisk, outcomes, again⟩ :=
    clear.exec_registerInTurn noReturn replaceable named distinct fresh
  have namedLists : ∀ names ∈ classes.map fun names => (names.1.toList, names.2.toList),
      IsClassName names.1 ∧ IsName names.2 := by
    intro names member
    obtain ⟨pair, inClasses, rfl⟩ := List.mem_map.1 member
    exact named pair inClasses
  obtain ⟨⟨newOpening, newClear⟩, -, layout_eq, entries_eq, mem_imports, refersTo_eq⟩ :=
    clear.registered noReturn namedLists
  simp only [List.map_map, Function.comp_def] at layout_eq entries_eq mem_imports refersTo_eq
  generalize layout.registerEach
    (classes.map fun names => (names.1.toList, names.2.toList)) = final at *
  refine ⟨newDisk, final.document, outcomes, again.found, newClear.parse_eq, ?_,
    fun names member => ?_, fun other otherNamed => ?_, congrArg Layout.text layout_eq⟩
  · rw [Document.declarations, Document.declarations, Layout.document_body, Layout.document_body]
    exact entries_eq
  · exact (mem_imports _).2 (.inr (List.mem_map_of_mem member))
  · have listed : other.toList ∈ classes.map (fun names => names.2.toList) ↔
        other ∈ classes.map Prod.snd := by
      simp only [List.mem_map, String.toList_inj]
    rw [← decide_eq_decide.2 listed]
    exact refersTo_eq other.toList otherNamed

/-- Every order of some classes is registered in a file without returns and without an import line in
its list, and another order puts the same lines and the same entries into the same two places. -/
theorem exists_registersInTurn_of_perm {disk : Disk} {path : Path} {mode : Nat} {text : List Char}
    {document : Document} {classes : List (String × String)}
    (replaceable : Replaceable disk path (encode (String.ofList text)) mode)
    (noReturn : '\r' ∉ text) (parsed : Document.parse text = .ok document)
    (clear : document.HasClearList)
    (named : ∀ names ∈ classes, IsClassName names.1.toList ∧ IsName names.2.toList)
    (distinct : (classes.map Prod.snd).Nodup)
    (fresh : ∀ names ∈ classes, refersTo names.2.toList text = false) :
    ∃ layout : Layout, layout.document = document ∧
      ∀ order, order.Perm classes → ∃ newDisk final,
        RegistersInTurn path mode layout disk order newDisk final ∧
        (addedLines document.imports (order.map fun names => importLine names.1.toList)).Perm
          (addedLines document.imports (classes.map fun names => importLine names.1.toList)) ∧
        ∀ done rest, order = done ++ rest → ∃ middleDisk middle,
          RegistersInTurn path mode layout disk done middleDisk middle ∧
          ∀ other : String, IsName other.toList → middle.refersTo other.toList = true →
            final.refersTo other.toList = true := by
  obtain ⟨layout, opening, isClear, rfl⟩ := exists_clear_layout parsed clear
  obtain ⟨text_eq, -, -⟩ := Document.parse_eq_ok_iff.1 parsed
  obtain rfl : layout.text = text := text_eq
  have registers (done rest : List (String × String)) (same : (done ++ rest).Perm classes) :
      ∃ newDisk final, RegistersInTurn path mode layout disk done newDisk final := by
    have subset (names : String × String) (member : names ∈ done) : names ∈ classes :=
      same.subset (List.mem_append_left _ member)
    have distinctAll := (same.map Prod.snd).nodup_iff.2 distinct
    rw [List.map_append] at distinctAll
    exact isClear.exists_registersInTurn noReturn replaceable
      (fun names member => named names (subset names member))
      (List.nodup_append.1 distinctAll).1
      (fun names member => fresh names (subset names member))
  refine ⟨layout, rfl, fun order same => ?_⟩
  obtain ⟨newDisk, final, registered⟩ := registers order [] (by rwa [List.append_nil])
  refine ⟨newDisk, final, registered, addedLines_perm (same.map _), fun done rest split => ?_⟩
  obtain ⟨middleDisk, middle, registeredFirst⟩ := registers done rest (split ▸ same)
  refine ⟨middleDisk, middle, registeredFirst, fun other otherNamed refers => ?_⟩
  rw [registeredFirst.refersTo_eq other otherNamed, Bool.or_eq_true, decide_eq_true_iff] at refers
  rw [registered.refersTo_eq other otherNamed, Bool.or_eq_true, decide_eq_true_iff]
  refine refers.imp_right fun inDone => ?_
  rw [split, List.map_append]
  exact List.mem_append_left _ inDone

theorem exists_registersInTurn_of_two_orders :
    ∃ disk layout, Replaceable disk ⟨.relative, ["M.php"]⟩
        (encode "use A\\B;\ndeclarations: [\n    B::class,\n]") 0o644 ∧
      Layout.document layout =
        ⟨"use A\\B;\ndeclarations: [\n    B::class,\n]".toList, 9, 24, 39⟩ ∧
      ∀ order, order.Perm [("A\\C", "C"), ("A\\AC", "AC")] → ∃ newDisk final,
        RegistersInTurn ⟨.relative, ["M.php"]⟩ 0o644 layout disk order newDisk final := by
  have replaceable := replaceable_withFile (by decide : "M.php" ≠ "..") (by decide) (by decide)
    (by decide)
    (encode (String.ofList "use A\\B;\ndeclarations: [\n    B::class,\n]".toList)) 0o644
  have parsed : Document.parse "use A\\B;\ndeclarations: [\n    B::class,\n]".toList =
      .ok ⟨"use A\\B;\ndeclarations: [\n    B::class,\n]".toList, 9, 24, 39⟩ := by
    decide +kernel
  have clear : Document.HasClearList
      ⟨"use A\\B;\ndeclarations: [\n    B::class,\n]".toList, 9, 24, 39⟩ := by
    decide +kernel
  have named : ∀ names ∈ [("A\\C", "C"), ("A\\AC", "AC")],
      IsClassName names.1.toList ∧ IsName names.2.toList := by
    decide
  have fresh : ∀ names ∈ [("A\\C", "C"), ("A\\AC", "AC")],
      refersTo names.2.toList "use A\\B;\ndeclarations: [\n    B::class,\n]".toList = false := by
    decide +kernel
  obtain ⟨layout, document_eq, registers⟩ := exists_registersInTurn_of_perm replaceable
    (by decide) parsed clear named (by decide) fresh
  rw [String.ofList_toList] at replaceable
  refine ⟨_, layout, replaceable, document_eq, fun order same => ?_⟩
  obtain ⟨newDisk, final, registered, -⟩ := registers order same
  exact ⟨newDisk, final, registered⟩

end Scaffold.Composition
