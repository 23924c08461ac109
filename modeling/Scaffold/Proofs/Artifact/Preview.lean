import Mathlib.Algebra.GroupWithZero.Nat
import Mathlib.Data.String.Basic
import Scaffold.Artifact.Preview
import Scaffold.Proofs.Text.Joined
import Scaffold.Text.Utf8

/-!
# What previews say

A preview counts the octets and the lines of the file that its artifact is to become and shows the
first of the lines. What it shows and what it says is left make up the whole file.
-/

set_option autoImplicit false

namespace Scaffold.Preview

theorem numbered_eq (number : Nat) (lines : List (List Char)) :
    numbered number lines =
      (lines.zipIdx number).map fun line => (line.2, String.ofList line.1) := by
  induction lines generalizing number with
  | nil => rfl
  | cons line lines ih => rw [numbered, ih, List.zipIdx_cons, List.map_cons]

theorem length_splitOn (separator : Char) (text : List Char) :
    (text.splitOn separator).length = text.count separator + 1 := by
  induction text with
  | nil => rfl
  | cons character text ih =>
    rw [List.splitOn_cons_eq_if_modifyHead, List.count_cons]
    split <;> simp [ih]

theorem not_mem_of_mem_splitOn {separator : Char} {text piece : List Char}
    (member : piece ∈ text.splitOn separator) : separator ∉ piece := by
  induction text generalizing piece with
  | nil =>
    rw [List.splitOn_nil, List.mem_singleton] at member
    rw [member]
    exact List.not_mem_nil
  | cons character text ih =>
    rw [List.splitOn_cons_eq_if_modifyHead] at member
    split at member
    · rcases List.mem_cons.1 member with rfl | below
      · exact List.not_mem_nil
      · exact ih below
    · next other =>
      -- The first piece grows at its front by a character that separates nothing.
      cases pieces : text.splitOn separator with
      | nil => exact absurd pieces (List.splitOn_ne_nil separator text)
      | cons first rest =>
        rw [pieces] at ih member
        rcases List.mem_cons.1 member with rfl | below
        · intro held
          rcases List.mem_cons.1 held with rfl | held
          · exact other (beq_self_eq_true _)
          · exact ih List.mem_cons_self held
        · exact ih (List.mem_cons_of_mem _ below)

/-- The lines that a preview shows, with a line feed between each and the next. -/
def shown (preview : Preview) : List Char :=
  ['\n'].intercalate (preview.lines.map fun line => line.2.toList)

/-- Whether a text is the part of another one before its line feed with a number. -/
def IsBeforeFeed (number : Nat) (front text : List Char) : Prop :=
  front.count '\n' + 1 = number ∧ ∃ rest, text = front ++ '\n' :: rest

/-- Whether a preview accounts for the whole of a text: the lines that it shows are numbered from one
without a gap and are the text, or its part before the twentieth line feed, and the lines that it says
are left are the others. -/
structure AccountsFor (preview : Preview) (content : String) : Prop where
  numbered : preview.lines.map Prod.fst = List.range' 1 preview.lines.length
  bounded : preview.lines.length ≤ 20
  whole : ∀ line ∈ preview.lines, '\n' ∉ line.2.toList
  counted : preview.lineCount = content.toList.count '\n' + 1
  divided : preview.lineCount = preview.lines.length + preview.remaining
  complete : preview.remaining = 0 → preview.shown = content.toList
  cut : preview.remaining ≠ 0 → IsBeforeFeed 20 preview.shown content.toList
  remains_iff : 0 < preview.remaining ↔ 20 ≤ content.toList.count '\n'
  size : preview.size = (content.toList.map Char.utf8Size).sum

theorem sum_map_utf8Size (text : List Char) :
    (text.map Char.utf8Size).sum = String.utf8Len text := by
  induction text with
  | nil => rfl
  | cons character text ih =>
    rw [List.map_cons, List.sum_cons, ih, String.utf8Len_cons, Nat.add_comm]

theorem lines_ofArtifact (artifact : Artifact) :
    (ofArtifact artifact).lines =
      (((artifact.content.toList.splitOn '\n').take 20).zipIdx 1).map
        fun line => (line.2, String.ofList line.1) :=
  numbered_eq 1 _

theorem shown_ofArtifact (artifact : Artifact) :
    (ofArtifact artifact).shown =
      ['\n'].intercalate ((artifact.content.toList.splitOn '\n').take 20) := by
  have unnumbered (lines : List (List Char)) :
      ((lines.zipIdx 1).map fun line => (String.ofList line.1).toList) = lines := by
    simp only [String.toList_ofList, List.zipIdx_map_fst]
  rw [shown, lines_ofArtifact, List.map_map]
  exact congrArg _ (unnumbered _)

theorem remaining_ofArtifact (artifact : Artifact) :
    (ofArtifact artifact).remaining = artifact.content.toList.count '\n' + 1 - 20 :=
  congrArg (· - 20) (length_splitOn '\n' artifact.content.toList)

/-- The first lines of a text that has more are what it has before the line feed after them. -/
theorem isBeforeFeed_intercalate_take {number : Nat} {text : List Char} (positive : number ≠ 0)
    (more : number < (text.splitOn '\n').length) :
    IsBeforeFeed number (['\n'].intercalate ((text.splitOn '\n').take number)) text := by
  have taken : ((text.splitOn '\n').take number).length = number := by
    rw [List.length_take]
    omega
  have left : ((text.splitOn '\n').drop number).length ≠ 0 := by
    rw [List.length_drop]
    omega
  refine ⟨?_, ['\n'].intercalate ((text.splitOn '\n').drop number), ?_⟩
  · rw [Text.count_intercalate ['\n'] fun line member =>
      not_mem_of_mem_splitOn (List.mem_of_mem_take member), taken, List.count_singleton_self]
    omega
  · have joined := Text.intercalate_append ['\n']
      (List.ne_nil_of_length_pos (Nat.pos_of_ne_zero (taken ▸ positive)))
      (List.ne_nil_of_length_pos (Nat.pos_of_ne_zero left))
    rw [List.take_append_drop, List.intercalate_splitOn] at joined
    exact joined

/-- A preview accounts for the whole content of its artifact. -/
theorem accountsFor_ofArtifact (artifact : Artifact) :
    (ofArtifact artifact).AccountsFor artifact.content := by
  have lineCount := length_splitOn '\n' artifact.content.toList
  have remaining := remaining_ofArtifact artifact
  have length : (ofArtifact artifact).lines.length =
      min 20 (artifact.content.toList.count '\n' + 1) := by
    rw [lines_ofArtifact, List.length_map, List.length_zipIdx, List.length_take, lineCount]
  have counted : (ofArtifact artifact).lineCount = artifact.content.toList.count '\n' + 1 := rfl
  refine ⟨?_, by omega, ?_, counted, by omega, fun nothing => ?_, fun positive => ?_, by omega, ?_⟩
  · rw [lines_ofArtifact, List.map_map, List.length_map, List.length_zipIdx]
    exact List.zipIdx_map_snd 1 _
  · intro line member
    rw [lines_ofArtifact] at member
    obtain ⟨piece, among, rfl⟩ := List.mem_map.1 member
    rw [String.toList_ofList]
    exact not_mem_of_mem_splitOn (List.mem_of_mem_take (List.fst_mem_of_mem_zipIdx among))
  · rw [shown_ofArtifact, List.take_of_length_le (by omega), List.intercalate_splitOn]
  · rw [shown_ofArtifact]
    exact isBeforeFeed_intercalate_take (by decide) (by omega)
  · rw [sum_map_utf8Size, String.utf8Len_toList]
    rfl

end Scaffold.Preview
