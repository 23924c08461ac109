import Scaffold.Artifact.Basic
import Scaffold.Proofs.Disk.Lexical
import Scaffold.Proofs.Text.Joined

/-!
# Paths of artifacts

A text is the path of an artifact if it neither starts at the root nor goes up. What is kept of it is a
normal form: it is read back as it is, it leads below every root, and different ones lead to different
places.
-/

set_option autoImplicit false

namespace Scaffold.Artifact

/-! ## Texts that are accepted -/

/-- A text with slashes for backslashes. -/
def slashed (text : String) : List Char :=
  text.toList.map slash

/-- Whether a text is something and, with slashes for backslashes, neither starts with a slash nor has
two dots for a component. -/
structure IsAccepted (text : String) : Prop where
  filled : text ≠ ""
  relative : (slashed text).head? ≠ some '/'
  descends : ['.', '.'] ∉ (slashed text).splitOn '/'

theorem parts?_eq_some_iff {text : String} {parts : List String} :
    parts? text = some parts ↔ IsAccepted text ∧ parts = Path.partsOf (slashed text) := by
  have parts?_eq : parts? text =
      if text = "" || Path.anchorOf (slashed text) != .relative ||
        (Path.partsOf (slashed text)).contains ".." then none
      else some (Path.partsOf (slashed text)) := by
    rw [parts?, Path.ofString, String.toList_ofList]
    rfl
  rw [parts?_eq]
  split
  · next rejected =>
    simp only [Bool.or_eq_true, decide_eq_true_eq, bne_iff_ne, List.contains_iff_mem] at rejected
    constructor
    · intro found
      cases found
    · rintro ⟨accepted, -⟩
      rcases rejected with (empty | absolute) | up
      · exact absurd empty accepted.filled
      · exact absurd (Path.anchorOf_eq_relative_iff.2 accepted.relative) absolute
      · exact absurd (Path.up_mem_partsOf_iff.1 up) accepted.descends
  · next allowed =>
    simp only [Bool.or_eq_true, decide_eq_true_eq, bne_iff_ne, List.contains_iff_mem, not_or,
      not_not] at allowed
    obtain ⟨⟨filled, relative⟩, plain⟩ := allowed
    have accepted : IsAccepted text := ⟨filled, Path.anchorOf_eq_relative_iff.1 relative,
      fun up => plain (Path.up_mem_partsOf_iff.2 up)⟩
    rw [Option.some_inj, eq_comm]
    exact ⟨fun parts_eq => ⟨accepted, parts_eq⟩, And.right⟩

theorem make_eq (path content kind : String) :
    make path content kind = (parts? path).elim
      (.error [⟨["path"],
        .rejected ("artifact path must be relative to the project root: " ++ Text.quote path)⟩])
      fun parts => .ok ⟨parts, content, kind⟩ := by
  have make_eq : make path content kind =
      (((((checkPath (.text path)).within "path").and (.ok content)).and (.ok kind)).map
        fun held => ⟨held.1.1, held.1.2, held.2⟩) := rfl
  have check_eq : checkPath (.text path) = (parts? path).elim
      (Checked.fail
        (.rejected ("artifact path must be relative to the project root: " ++ Text.quote path)))
      fun parts => .ok parts := by
    have held : Checked.text (.text path) = .ok path := rfl
    simp only [checkPath, held, bind, Except.bind]
    cases parts? path <;> rfl
  rw [make_eq, check_eq]
  cases parts? path <;> rfl

/-- An artifact is made just of an accepted path, and has its components. -/
theorem make_eq_ok_iff {path content kind : String} {artifact : Artifact} :
    make path content kind = .ok artifact ↔
      IsAccepted path ∧ artifact = ⟨Path.partsOf (slashed path), content, kind⟩ := by
  rw [make_eq]
  constructor
  · intro made
    cases found : parts? path with
    | none => simp [found] at made
    | some parts =>
      obtain ⟨accepted, rfl⟩ := parts?_eq_some_iff.1 found
      rw [found] at made
      cases made
      exact ⟨accepted, rfl⟩
  · rintro ⟨accepted, rfl⟩
    rw [parts?_eq_some_iff.2 ⟨accepted, rfl⟩]
    rfl

/-! ## What is kept of a path -/

variable {artifact : Artifact}

/-- Whether the path of an artifact is in normal form: it has components, none of which goes up or has a
backslash. -/
structure IsNormal (artifact : Artifact) : Prop where
  isParts : ∀ part ∈ artifact.parts, Path.IsPart part
  descends : ".." ∉ artifact.parts
  unslashed : ∀ part ∈ artifact.parts, '\\' ∉ part.toList

theorem isNormal_of_make {path content kind : String}
    (made : make path content kind = .ok artifact) : artifact.IsNormal := by
  obtain ⟨accepted, rfl⟩ := make_eq_ok_iff.1 made
  refine ⟨Path.isPart_of_mem_partsOf, fun up => accepted.descends (Path.up_mem_partsOf_iff.1 up), ?_⟩
  intro part member backslash
  obtain ⟨character, -, slash_eq⟩ :=
    List.mem_map.1 (Path.mem_of_mem_partsOf part member '\\' backslash)
  unfold slash at slash_eq
  split at slash_eq
  · cases slash_eq
  · contradiction

theorem pathText_of_nil (whole : artifact.parts = []) : artifact.pathText = "." := by
  rw [pathText, path, whole]
  rfl

theorem pathText_of_ne_nil (filled : artifact.parts ≠ []) :
    artifact.pathText = "/".intercalate artifact.parts :=
  Path.toString_relative filled

namespace IsNormal

/-- The components are read back from the text. -/
theorem ofString_pathText (normal : artifact.IsNormal) :
    Path.ofString artifact.pathText = ⟨.relative, artifact.parts⟩ :=
  Path.ofString_toString normal.isParts

theorem slashed_pathText (normal : artifact.IsNormal) :
    slashed artifact.pathText = artifact.pathText.toList := by
  have unslashed : ∀ character ∈ artifact.pathText.toList, character ≠ '\\' := by
    by_cases filled : artifact.parts = []
    · rw [pathText_of_nil filled]
      exact List.forall_mem_singleton.2 (by decide)
    · rw [pathText_of_ne_nil filled, String.toList_intercalate]
      refine Text.forall_mem_intercalate (List.forall_mem_singleton.2 (by decide))
        (List.forall_mem_map.2 ?_)
      intro part member character inside backslash
      exact normal.unslashed part member (backslash ▸ inside)
  refine (List.map_congr_left fun character member => ?_).trans (List.map_id _)
  exact if_neg (unslashed character member)

theorem pathText_ne_empty (normal : artifact.IsNormal) : artifact.pathText ≠ "" := by
  intro empty
  have read := normal.ofString_pathText
  have nothing : artifact.parts = [] := by
    rw [empty] at read
    exact (congrArg Path.parts read).symm
  rw [pathText_of_nil nothing] at empty
  exact absurd empty (by decide)

/-- The same artifact is made of the path that is kept. -/
theorem make_pathText (normal : artifact.IsNormal) :
    make artifact.pathText artifact.content artifact.kind = .ok artifact := by
  have read := normal.ofString_pathText
  have anchor_eq : Path.anchorOf artifact.pathText.toList = .relative := congrArg Path.anchor read
  have parts_eq : Path.partsOf artifact.pathText.toList = artifact.parts :=
    congrArg Path.parts read
  rw [make_eq_ok_iff, normal.slashed_pathText, parts_eq]
  refine ⟨⟨normal.pathText_ne_empty, ?_, ?_⟩, rfl⟩
  · rw [normal.slashed_pathText]
    exact Path.anchorOf_eq_relative_iff.1 anchor_eq
  · rw [normal.slashed_pathText, ← Path.up_mem_partsOf_iff, parts_eq]
    exact normal.descends

theorem target_eq_descend (normal : artifact.IsNormal) (root : Path) :
    artifact.target root = root.descend (Path.ofString artifact.pathText).parts := by
  rw [normal.ofString_pathText]
  exact (root.descend_of_isPart normal.isParts).symm

theorem target_eq_or_isBelow (normal : artifact.IsNormal) (root : Path) :
    artifact.target root = root ∨ (artifact.target root).IsBelow root := by
  by_cases filled : artifact.parts = []
  · refine .inl ?_
    rw [target, filled, List.append_nil]
  · exact .inr (root.isBelow_of_plain filled normal.descends)

theorem target_eq_target_iff {other : Artifact} (normal : artifact.IsNormal)
    (normalOther : other.IsNormal) (root : Path) :
    artifact.target root = other.target root ↔ artifact.pathText = other.pathText := by
  have targets : artifact.target root = other.target root ↔ artifact.parts = other.parts := by
    rw [target, target, Path.mk.injEq, List.append_cancel_left_eq]
    exact and_iff_right rfl
  rw [targets]
  constructor
  · intro parts_eq
    rw [pathText, pathText, path, path, parts_eq]
  · intro text_eq
    have read := normal.ofString_pathText
    rw [text_eq, normalOther.ofString_pathText] at read
    exact (congrArg Path.parts read).symm

end IsNormal

/-! ## Paths that are kept -/

/-- Whether the text that is kept of a path is a single dot or components with slashes between them, the
artifact is made of it again, and it is found by its components at a root or below it. -/
structure IsConfined (artifact : Artifact) : Prop where
  kept : artifact.pathText = "." ∨ ∃ names : List String, names ≠ [] ∧
    (∀ name ∈ names, Path.IsPart name ∧ name ≠ "..") ∧ artifact.pathText = "/".intercalate names
  again : make artifact.pathText artifact.content artifact.kind = .ok artifact
  reached : ∀ root : Path,
    artifact.target root = root.descend (Path.ofString artifact.pathText).parts
  below : ∀ root : Path, artifact.target root = root ∨ (artifact.target root).IsBelow root

theorem IsNormal.isConfined (normal : artifact.IsNormal) :
    artifact.IsConfined where
  kept := by
    by_cases filled : artifact.parts = []
    · exact .inl (pathText_of_nil filled)
    · refine .inr ⟨artifact.parts, filled, fun part member => ?_, pathText_of_ne_nil filled⟩
      exact ⟨normal.isParts part member, fun up => normal.descends (up ▸ member)⟩
  again := normal.make_pathText
  reached := normal.target_eq_descend
  below := normal.target_eq_or_isBelow

/-- An artifact is made of a path just if this is something that neither starts at the root nor goes up.
What is kept of the path stays as it is and leads to the root or below it, and two artifacts are in one
place just if the same is kept of their paths. -/
theorem paths_are_canonical (path content kind : String) :
    ((∃ artifact, make path content kind = .ok artifact) ↔ IsAccepted path) ∧
      ∀ artifact, make path content kind = .ok artifact →
        artifact.IsConfined ∧
          ∀ pathOther contentOther kindOther other,
            make pathOther contentOther kindOther = .ok other → ∀ root : Path,
              artifact.target root = other.target root ↔ artifact.pathText = other.pathText := by
  refine ⟨⟨?_, ?_⟩, ?_⟩
  · rintro ⟨artifact, made⟩
    exact (make_eq_ok_iff.1 made).1
  · intro accepted
    exact ⟨_, make_eq_ok_iff.2 ⟨accepted, rfl⟩⟩
  · intro artifact made
    have normal := isNormal_of_make made
    refine ⟨normal.isConfined, fun pathOther contentOther kindOther other madeOther root => ?_⟩
    exact normal.target_eq_target_iff (isNormal_of_make madeOther) root

/-- Backslashes, repeated slashes, single dots and slashes at the end are not kept. -/
theorem paths_are_canonical_mixed :
    IsAccepted "src\\core//./Jobs/" ∧
      ∃ artifact other, make "src\\core//./Jobs/" "a" "job" = .ok artifact ∧
        make "./src/core/Jobs" "b" "job" = .ok other ∧ artifact.pathText = "src/core/Jobs" ∧
        make "src/core/Jobs" "a" "job" = .ok artifact ∧
        (artifact.target ⟨.root, ["srv"]⟩ = ⟨.root, ["srv"]⟩ ∨
          (artifact.target ⟨.root, ["srv"]⟩).IsBelow ⟨.root, ["srv"]⟩) ∧
        artifact.target ⟨.root, ["srv"]⟩ = other.target ⟨.root, ["srv"]⟩ := by
  obtain ⟨made_iff, holds⟩ := paths_are_canonical "src\\core//./Jobs/" "a" "job"
  have accepted : IsAccepted "src\\core//./Jobs/" :=
    ⟨by decide, by decide +kernel, by decide +kernel⟩
  have acceptedOther : IsAccepted "./src/core/Jobs" :=
    ⟨by decide, by decide +kernel, by decide +kernel⟩
  obtain ⟨artifact, made⟩ := made_iff.2 accepted
  obtain ⟨other, madeOther⟩ :=
    (paths_are_canonical "./src/core/Jobs" "b" "job").1.2 acceptedOther
  obtain ⟨confined, same⟩ := holds artifact made
  obtain ⟨-, artifact_eq⟩ := make_eq_ok_iff.1 made
  obtain ⟨-, other_eq⟩ := make_eq_ok_iff.1 madeOther
  have kept : artifact.pathText = "src/core/Jobs" := by
    rw [artifact_eq]
    decide +kernel
  have keptOther : other.pathText = "src/core/Jobs" := by
    rw [other_eq]
    decide +kernel
  have again := confined.again
  rw [kept, artifact_eq] at again
  refine ⟨accepted, artifact, other, made, madeOther, kept, ?_, confined.below _, ?_⟩
  · rw [artifact_eq]
    exact again
  · exact (same _ _ _ _ madeOther _).2 (kept.trans keptOther.symm)

end Scaffold.Artifact
