import Mathlib.Data.String.Basic
import Scaffold.Proofs.Template.Render
import Scaffold.Template.Filter
import Scaffold.Template.Imports

/-!
# Sets of imports are sets

The names that a file imports are those that it always does and those of the groups that are wanted.
They ascend, so that each stands there once, in a line of its own, and the order and the repetitions that
they were given in make no difference.
-/

set_option autoImplicit false

namespace Scaffold.Template

variable {name inserted : String} {names base : List String} {groups : List ImportGroup}

theorem mem_insertName_iff : name ∈ insertName inserted names ↔ name = inserted ∨ name ∈ names := by
  induction names with
  | nil => exact List.mem_singleton.trans (or_iff_left List.not_mem_nil).symm
  | cons first names ih =>
    rw [insertName]
    split
    · exact List.mem_cons
    · next notBefore =>
      split
      · rw [List.mem_cons, List.mem_cons, ih]
        exact or_left_comm
      · next notAfter =>
        have same : inserted = first := le_antisymm (not_lt.1 notAfter) (not_lt.1 notBefore)
        rw [same, List.mem_cons]
        exact (or_self_left).symm

theorem pairwise_insertName (ascending : names.Pairwise (· < ·)) :
    (insertName inserted names).Pairwise (· < ·) := by
  induction names with
  | nil => exact List.pairwise_singleton _ _
  | cons first names ih =>
    obtain ⟨least, below⟩ := List.pairwise_cons.1 ascending
    rw [insertName]
    split
    · next before =>
      refine List.pairwise_cons.2 ⟨List.forall_mem_cons.2 ⟨before, ?_⟩, ascending⟩
      exact fun name member => before.trans (least name member)
    · split
      · next after =>
        refine List.pairwise_cons.2 ⟨fun name member => ?_, ih below⟩
        rcases mem_insertName_iff.1 member with rfl | among
        · exact after
        · exact least name among
      · exact ascending

theorem insertName_ne_nil (name : String) (names : List String) : insertName name names ≠ [] :=
  List.ne_nil_of_mem (mem_insertName_iff.2 (.inl rfl))

theorem mem_sortedNames_iff : name ∈ sortedNames names ↔ name ∈ names := by
  induction names with
  | nil => exact Iff.rfl
  | cons first names ih =>
    have unfolded : sortedNames (first :: names) = insertName first (sortedNames names) := rfl
    rw [unfolded, mem_insertName_iff, ih, List.mem_cons]

theorem pairwise_sortedNames (names : List String) : (sortedNames names).Pairwise (· < ·) := by
  induction names with
  | nil => exact List.Pairwise.nil
  | cons first names ih => exact pairwise_insertName ih

/-- The names that are imported are those that always are and those of the groups that are wanted. -/
theorem mem_importNames_iff :
    name ∈ importNames base groups ↔
      name ∈ base ∨ ∃ group ∈ groups, group.wanted = true ∧ name ∈ group.names := by
  rw [importNames, mem_sortedNames_iff, List.mem_append, List.mem_flatMap]
  refine or_congr_right (exists_congr fun group => ?_)
  rw [List.mem_filter, and_assoc]

theorem nodup_importNames (base : List String) (groups : List ImportGroup) :
    (importNames base groups).Nodup :=
  (pairwise_sortedNames _).imp fun before => ne_of_lt before

theorem importNames_ne_nil (filled : base ≠ []) (groups : List ImportGroup) :
    importNames base groups ≠ [] := by
  cases base with
  | nil => exact absurd rfl filled
  | cons first base => exact insertName_ne_nil first _

/-- What holds of the names that are always imported and of those of each group holds of all that are
imported. -/
theorem forall_mem_importNames {holds : String → Prop} (always : ∀ name ∈ base, holds name)
    (grouped : ∀ group ∈ groups, ∀ name ∈ group.names, holds name) :
    ∀ name ∈ importNames base groups, holds name := by
  intro name member
  rcases mem_importNames_iff.1 member with inBase | ⟨group, among, -, named⟩
  · exact always name inBase
  · exact grouped group among name named

/-! ## The import lines of names -/

/-- The import lines of names, one under the other. -/
def importBlock (names : List String) : List Char :=
  ['\n'].intercalate (names.map fun name => (importLine name).toList)

theorem not_mem_importLine {name : String} {character : Char} (absent : character ∉ name.toList)
    (other : character ∉ "use ;".toList) : character ∉ (importLine name).toList := by
  have line_eq : (importLine name).toList = "use ".toList ++ name.toList ++ ";".toList := by
    rw [importLine, String.toList_append, String.toList_append]
  have split : "use ;".toList = "use ".toList ++ ";".toList := rfl
  rw [split, List.mem_append, not_or] at other
  rw [line_eq, List.mem_append, List.mem_append, not_or, not_or]
  exact ⟨⟨other.1, absent⟩, other.2⟩

theorem splitOn_importBlock {names : List String} (filled : names ≠ [])
    (whole : ∀ name ∈ names, '\n' ∉ name.toList) :
    (importBlock names).splitOn '\n' = names.map fun name => (importLine name).toList := by
  refine List.splitOn_intercalate '\n' ?_ fun empty => filled (List.map_eq_nil_iff.1 empty)
  exact List.forall_mem_map.2 fun name member => not_mem_importLine (whole name member) (by decide)

/-- The lines of a text, and none of a text with nothing in it. -/
def writtenLines (text : String) : List String :=
  if text = "" then [] else (text.toList.splitOn '\n').map String.ofList

theorem linesOf_importLines (whole : ∀ name ∈ names, '\n' ∉ name.toList) :
    writtenLines ("\n".intercalate (names.map importLine)) = names.map importLine := by
  have block : ("\n".intercalate (names.map importLine)).toList = importBlock names := by
    rw [String.toList_intercalate, List.map_map]
    rfl
  have rows : (names.map fun name => (importLine name).toList).map String.ofList =
      names.map importLine := by
    simp only [List.map_map, Function.comp_def, String.ofList_toList]
  cases names with
  | nil => rfl
  | cons name names =>
    have filled : "\n".intercalate ((name :: names).map importLine) ≠ "" := by
      intro empty
      have split := splitOn_importBlock (List.cons_ne_nil name names) whole
      rw [← block, empty] at split
      have lineEmpty : [] = (importLine name).toList := (List.cons_eq_cons.1 split).1
      rw [importLine, String.toList_append, String.toList_append] at lineEmpty
      cases lineEmpty
    rw [writtenLines, if_neg filled, block, splitOn_importBlock (List.cons_ne_nil name names) whole, rows]

/-! ## Sets of names -/

def codePoints (name : String) : List Nat :=
  name.toList.map Char.toNat

theorem codePoints_lt_codePoints {other : String} (before : name < other) :
    codePoints name < codePoints other :=
  List.map_lt (fun _ _ less => less) (String.lt_iff_toList_lt.1 before)

/-- Whether two lists have the same members, in whatever order and however often. -/
def SameMembers (names others : List String) : Prop :=
  ∀ name, name ∈ names ↔ name ∈ others

/-- Whether two groups are of the same names, in whatever order and however often, and both wanted or
both not. -/
def ImportGroup.Matches (group other : ImportGroup) : Prop :=
  group.wanted = other.wanted ∧ SameMembers group.names other.names

/-- Whether two lists have the same groups, in whatever order and however often. -/
structure SameGroups (groups others : List ImportGroup) : Prop where
  found : ∀ group ∈ groups, ∃ other ∈ others, group.Matches other
  covered : ∀ other ∈ others, ∃ group ∈ groups, group.Matches other

/-- Lists that ascend are the same if their members are. -/
theorem eq_of_sameMembers {others : List String} (ascending : names.Pairwise (· < ·))
    (othersAscending : others.Pairwise (· < ·)) (same : SameMembers names others) :
    names = others := by
  have nodup : names.Nodup := ascending.imp fun before => ne_of_lt before
  have othersNodup : others.Nodup := othersAscending.imp fun before => ne_of_lt before
  refine List.Perm.eq_of_pairwise (fun name other _ _ before after => ?_) ascending othersAscending
    ((List.perm_ext_iff_of_nodup nodup othersNodup).2 same)
  exact absurd after (not_lt_of_gt before)

theorem importNames_eq_of_same {otherBase : List String} {otherGroups : List ImportGroup}
    (sameBase : SameMembers base otherBase) (sameGroups : SameGroups groups otherGroups) :
    importNames otherBase otherGroups = importNames base groups := by
  refine eq_of_sameMembers (pairwise_sortedNames _) (pairwise_sortedNames _) fun name => ?_
  rw [mem_importNames_iff, mem_importNames_iff]
  refine or_congr (sameBase name).symm ⟨?_, ?_⟩
  · rintro ⟨other, among, isWanted, named⟩
    obtain ⟨group, listed, sameWanted, sameNames⟩ := sameGroups.covered other among
    exact ⟨group, listed, sameWanted.trans isWanted, (sameNames name).2 named⟩
  · rintro ⟨group, listed, isWanted, named⟩
    obtain ⟨other, among, sameWanted, sameNames⟩ := sameGroups.found group listed
    exact ⟨other, among, sameWanted.symm.trans isWanted, (sameNames name).1 named⟩

/-- Whether names are all those to import, in strictly ascending order of code points, are the same in
whatever order and however often the names and the groups are given, and are written one to a line. -/
structure AreImports (base : List String) (groups : List ImportGroup) (names : List String) :
    Prop where
  ascending : (names.map codePoints).Pairwise (· < ·)
  mem_iff : ∀ name, name ∈ names ↔
    name ∈ base ∨ ∃ group ∈ groups, group.wanted = true ∧ name ∈ group.names
  unchanged : ∀ otherBase otherGroups, SameMembers base otherBase → SameGroups groups otherGroups →
    importNames otherBase otherGroups = names
  written : (∀ name ∈ names, '\n' ∉ name.toList) →
    ∃ text, Filter.imports.apply (.list (names.map .text)) = .ok text ∧
      writtenLines text = names.map fun name => "use " ++ name ++ ";"

/-- What a file imports is a set of names, written in one way. -/
theorem areImports_importNames (base : List String) (groups : List ImportGroup) :
    AreImports base groups (importNames base groups) where
  ascending := List.pairwise_map.2
    ((pairwise_sortedNames _).imp fun before => codePoints_lt_codePoints before)
  mem_iff _ := mem_importNames_iff
  unchanged _ _ sameBase sameGroups := importNames_eq_of_same sameBase sameGroups
  written whole := by
    refine ⟨_, ?_, linesOf_importLines whole⟩
    rw [Filter.apply, importLines_list]
    rfl

end Scaffold.Template
