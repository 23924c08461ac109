import Mathlib.Order.Bounds.Defs
import Scaffold.Text.EditDistance

/-!
# The edit distance is the least number of edits

A row of the computation holds the distances of one prefix of the source to all prefixes of the
target. The distance of two texts is what the least of the last characters' three edits adds to the
distance of what is above them; that no series of edits does with fewer is shown edit by edit. All
laws of a distance then follow from those of series of edits, which can be reversed and joined.
-/

set_option autoImplicit false

namespace Scaffold.Text

/-! ## Edits -/

/-- One character is put into a text, taken from it, or replaced by another. -/
inductive Edit : List Char → List Char → Prop where
  | insert (before : List Char) (character : Char) (after : List Char) :
      Edit (before ++ after) (before ++ character :: after)
  | delete (before : List Char) (character : Char) (after : List Char) :
      Edit (before ++ character :: after) (before ++ after)
  | substitute (before : List Char) (old new : Char) (after : List Char) :
      Edit (before ++ old :: after) (before ++ new :: after)

/-- Whether so many edits, one after the other, turn one text into another. -/
inductive EditsTo : Nat → List Char → List Char → Prop where
  | done (text : List Char) : EditsTo 0 text text
  | step {count : Nat} {first second third : List Char} :
      Edit first second → EditsTo count second third → EditsTo (count + 1) first third

theorem Edit.symm {first second : List Char} (edit : Edit first second) : Edit second first := by
  cases edit with
  | insert before character after => exact .delete before character after
  | delete before character after => exact .insert before character after
  | substitute before old new after => exact .substitute before new old after

theorem Edit.cons {first second : List Char} (edit : Edit first second) (character : Char) :
    Edit (character :: first) (character :: second) := by
  cases edit with
  | insert before inserted after => exact .insert (character :: before) inserted after
  | delete before deleted after => exact .delete (character :: before) deleted after
  | substitute before old new after => exact .substitute (character :: before) old new after

theorem Edit.reverse {first second : List Char} (edit : Edit first second) :
    Edit first.reverse second.reverse := by
  cases edit with
  | insert before character after =>
    simpa using Edit.insert after.reverse character before.reverse
  | delete before character after =>
    simpa using Edit.delete after.reverse character before.reverse
  | substitute before old new after =>
    simpa using Edit.substitute after.reverse old new before.reverse

namespace EditsTo

variable {count more : Nat} {first second third : List Char}

theorem single (edit : Edit first second) : EditsTo 1 first second :=
  .step edit (.done second)

theorem trans (before : EditsTo count first second) (after : EditsTo more second third) :
    EditsTo (count + more) first third := by
  induction before with
  | done text => simpa using after
  | step edit _ ih =>
    rw [Nat.add_right_comm]
    exact .step edit (ih after)

theorem symm (edits : EditsTo count first second) : EditsTo count second first := by
  induction edits with
  | done text => exact .done text
  | step edit _ ih => exact ih.trans (.single edit.symm)

theorem cons (edits : EditsTo count first second) (character : Char) :
    EditsTo count (character :: first) (character :: second) := by
  induction edits with
  | done text => exact .done (character :: text)
  | step edit _ ih => exact .step (edit.cons character) ih

theorem reverse (edits : EditsTo count first second) :
    EditsTo count first.reverse second.reverse := by
  induction edits with
  | done text => exact .done text.reverse
  | step edit _ ih => exact .step edit.reverse ih

theorem of_nil (text : List Char) : EditsTo text.length [] text := by
  induction text with
  | nil => exact .done []
  | cons character text ih => exact .step (.insert [] character []) (ih.cons character)

theorem fewer (edits : EditsTo count first second) (others : EditsTo more first second) :
    EditsTo (min count more) first second := by
  rcases Nat.le_total count more with below | above
  · rwa [Nat.min_eq_left below]
  · rwa [Nat.min_eq_right above]

theorem eq_of_zero (edits : EditsTo 0 first second) : first = second := by
  cases edits
  rfl

theorem length_le (edits : EditsTo count first second) : first.length ≤ second.length + count := by
  induction edits with
  | done text => exact Nat.le_refl _
  | step edit _ ih =>
    have one : ∀ {first second : List Char}, Edit first second →
        first.length ≤ second.length + 1 := by
      intro first second edit
      cases edit <;> simp only [List.length_append, List.length_cons] <;> omega
    have shorter := one edit
    omega

end EditsTo

/-! ## The distance by the first characters -/

def substitutionCost (character other : Char) : Nat :=
  if character = other then 0 else 1

/-- The least of what the three edits of the first characters add to the distance of the rest. -/
def distance : List Char → List Char → Nat
  | [], target => target.length
  | character :: source, [] => (character :: source).length
  | character :: source, other :: target =>
    min (min (distance source (other :: target) + 1) (distance (character :: source) target + 1))
      (distance source target + substitutionCost character other)

theorem substitutionCost_le (character other : Char) : substitutionCost character other ≤ 1 := by
  unfold substitutionCost
  split <;> omega

theorem distance_nil_left (target : List Char) : distance [] target = target.length := by
  rw [distance]

theorem distance_nil_right (source : List Char) : distance source [] = source.length := by
  cases source with
  | nil => rw [distance_nil_left]
  | cons character source => rw [distance]

theorem distance_cons_cons (character other : Char) (source target : List Char) :
    distance (character :: source) (other :: target) =
      min (min (distance source (other :: target) + 1) (distance (character :: source) target + 1))
        (distance source target + substitutionCost character other) := by
  rw [distance]

/-- As many edits as the distance says turn one text into the other. -/
theorem editsTo_distance (source target : List Char) :
    EditsTo (distance source target) source target := by
  fun_induction distance source target with
  | case1 target => exact .of_nil target
  | case2 character source => exact (EditsTo.of_nil (character :: source)).symm
  | case3 character source other target deleted inserted kept =>
    have byDeletion : EditsTo (distance source (other :: target) + 1) (character :: source)
        (other :: target) := .step (.delete [] character source) deleted
    have byInsertion : EditsTo (distance (character :: source) target + 1) (character :: source)
        (other :: target) := inserted.trans (.single (.insert [] other target))
    have bySubstitution : EditsTo (distance source target + substitutionCost character other)
        (character :: source) (other :: target) := by
      unfold substitutionCost
      split
      · next same =>
        rw [same]
        exact kept.cons other
      · exact (kept.cons character).trans (.single (.substitute [] character other target))
    exact (byDeletion.fewer byInsertion).fewer bySubstitution

/-! ## No series of edits is shorter -/

theorem distance_cons_left_le (character : Char) (source target : List Char) :
    distance (character :: source) target ≤ distance source target + 1 := by
  cases target with
  | nil => simp [distance_nil_right]
  | cons other target =>
    rw [distance_cons_cons]
    omega

theorem distance_cons_right_le (character : Char) (source target : List Char) :
    distance source (character :: target) ≤ distance source target + 1 := by
  cases source with
  | nil => simp [distance]
  | cons other source =>
    rw [distance_cons_cons]
    omega

theorem distance_le_cons_left (character : Char) (source target : List Char) :
    distance source target ≤ distance (character :: source) target + 1 := by
  induction target with
  | nil =>
    simp only [distance_nil_right, List.length_cons]
    omega
  | cons other target ih =>
    have inserted := distance_cons_right_le other source target
    rw [distance_cons_cons]
    omega

theorem distance_substitute_le (old new : Char) (source target : List Char) :
    distance (old :: source) target ≤ distance (new :: source) target + 1 := by
  induction target with
  | nil => simp [distance_nil_right]
  | cons other target ih =>
    have cost := substitutionCost_le old other
    rw [distance_cons_cons, distance_cons_cons]
    omega

theorem distance_cons_le_of_le {first second : List Char}
    (near : ∀ target, distance first target ≤ distance second target + 1) (character : Char)
    (target : List Char) :
    distance (character :: first) target ≤ distance (character :: second) target + 1 := by
  induction target with
  | nil => simpa [distance_nil_right] using near []
  | cons other target ih =>
    have deleted := near (other :: target)
    have kept := near target
    rw [distance_cons_cons, distance_cons_cons]
    omega

theorem distance_append_le_of_le {first second : List Char}
    (near : ∀ target, distance first target ≤ distance second target + 1) (before : List Char) :
    ∀ target, distance (before ++ first) target ≤ distance (before ++ second) target + 1 := by
  induction before with
  | nil => exact near
  | cons character before ih => exact distance_cons_le_of_le ih character

/-- One edit changes the distance to any text by one at most. -/
theorem distance_le_of_edit {first second : List Char} (edit : Edit first second)
    (target : List Char) : distance first target ≤ distance second target + 1 := by
  cases edit with
  | insert before character after =>
    exact distance_append_le_of_le (distance_le_cons_left character after) before target
  | delete before character after =>
    exact distance_append_le_of_le (distance_cons_left_le character after) before target
  | substitute before old new after =>
    exact distance_append_le_of_le (distance_substitute_le old new after) before target

theorem distance_self (text : List Char) : distance text text = 0 := by
  induction text with
  | nil => rw [distance_nil_left, List.length_nil]
  | cons character text ih => simp [distance_cons_cons, ih, substitutionCost]

theorem distance_le_of_editsTo {count : Nat} {source target : List Char}
    (edits : EditsTo count source target) : distance source target ≤ count := by
  induction edits with
  | done text => exact Nat.le_of_eq (distance_self text)
  | step edit _ ih =>
    have near := distance_le_of_edit edit
    exact Nat.le_trans (near _) (Nat.succ_le_succ ih)

theorem distance_le_max (source target : List Char) :
    distance source target ≤ max source.length target.length := by
  fun_induction distance source target with
  | case1 target => simp
  | case2 character source => simp
  | case3 character source other target _ _ kept =>
    have cost := substitutionCost_le character other
    simp only [List.length_cons]
    omega

/-! ## Rows -/

/-- The distances of a text to another one and to each that goes on from it, all texts reversed. -/
def distancesAlong (source : List Char) : List Char → List Char → List Nat
  | seen, [] => [distance source seen]
  | seen, character :: rest => distance source seen :: distancesAlong source (character :: seen) rest

theorem distancesAlong_eq_cons (source seen rest : List Char) :
    distancesAlong source seen rest =
      distance source seen :: (distancesAlong source seen rest).tail := by
  cases rest <;> rfl

theorem extendRow_eq (character : Char) (source seen rest : List Char) :
    extendRow character rest (distancesAlong source seen rest)
        (distance (character :: source) seen) =
      (distancesAlong (character :: source) seen rest).tail := by
  induction rest generalizing seen with
  | nil => rfl
  | cons other rest ih =>
    have further := ih (other :: seen)
    rw [distancesAlong_eq_cons source (other :: seen) rest] at further
    have entry : min (min (distance source (other :: seen) + 1)
        (distance (character :: source) seen + 1))
        (distance source seen + if character = other then 0 else 1) =
          distance (character :: source) (other :: seen) := by
      rw [distance_cons_cons, substitutionCost]
    simp only [distancesAlong, List.tail_cons]
    rw [distancesAlong_eq_cons source (other :: seen) rest, extendRow, entry, further,
      ← distancesAlong_eq_cons]

theorem nextRow_eq (character : Char) (source target : List Char) :
    nextRow target (distancesAlong source [] target) character =
      distancesAlong (character :: source) [] target := by
  have first : (distancesAlong source [] target).headD 0 + 1 = distance (character :: source) [] := by
    rw [distancesAlong_eq_cons, List.headD_cons, distance_nil_right, distance_nil_right,
      List.length_cons]
  rw [nextRow, first, extendRow_eq, ← distancesAlong_eq_cons]

/-- The row after some characters of the source holds their distances to all prefixes of the
target. -/
theorem foldl_nextRow (source seen target : List Char) :
    source.foldl (nextRow target) (distancesAlong seen [] target) =
      distancesAlong (source.reverse ++ seen) [] target := by
  induction source generalizing seen with
  | nil => rfl
  | cons character source ih =>
    rw [List.foldl_cons, nextRow_eq, ih, List.reverse_cons, List.append_assoc,
      List.singleton_append]

theorem distancesAlong_nil (seen rest : List Char) :
    distancesAlong [] seen rest = List.range' seen.length (rest.length + 1) := by
  induction rest generalizing seen with
  | nil => simp [distancesAlong, distance_nil_left]
  | cons character rest ih =>
    rw [distancesAlong, ih, distance_nil_left]
    rfl

theorem getLastD_distancesAlong (source seen rest : List Char) :
    (distancesAlong source seen rest).getLastD 0 = distance source (rest.reverse ++ seen) := by
  induction rest generalizing seen with
  | nil => rfl
  | cons character rest ih =>
    have last := ih (character :: seen)
    rw [distancesAlong_eq_cons] at last
    rw [distancesAlong, distancesAlong_eq_cons, List.reverse_cons, List.append_assoc,
      List.singleton_append, ← last]
    rfl

theorem editDistance_eq (source target : List Char) :
    editDistance source target = distance source.reverse target.reverse := by
  have start : List.range (target.length + 1) = distancesAlong [] [] target := by
    rw [distancesAlong_nil, List.range_eq_range', List.length_nil]
  rw [editDistance, start, foldl_nextRow, getLastD_distancesAlong, List.append_nil,
    List.append_nil]

/-! ## The distance that is computed -/

theorem editsTo_editDistance (source target : List Char) :
    EditsTo (editDistance source target) source target := by
  have reversed := (editsTo_distance source.reverse target.reverse).reverse
  rwa [List.reverse_reverse, List.reverse_reverse, ← editDistance_eq] at reversed

theorem editDistance_le_of_editsTo {count : Nat} {source target : List Char}
    (edits : EditsTo count source target) : editDistance source target ≤ count := by
  rw [editDistance_eq]
  exact distance_le_of_editsTo edits.reverse

theorem editDistance_le_iff {source target : List Char} {limit : Nat} :
    editDistance source target ≤ limit ↔ ∃ count ≤ limit, EditsTo count source target := by
  constructor
  · intro near
    exact ⟨_, near, editsTo_editDistance source target⟩
  · intro ⟨count, few, edits⟩
    exact Nat.le_trans (editDistance_le_of_editsTo edits) few

theorem isLeast_editDistance (source target : List Char) :
    IsLeast {count | EditsTo count source target} (editDistance source target) := by
  refine ⟨editsTo_editDistance source target, ?_⟩
  intro count edits
  exact editDistance_le_of_editsTo edits

theorem editDistance_eq_zero_iff {source target : List Char} :
    editDistance source target = 0 ↔ source = target := by
  constructor
  · intro zero
    have edits := editsTo_editDistance source target
    rw [zero] at edits
    exact edits.eq_of_zero
  · intro same
    rw [same]
    exact Nat.le_zero.1 (editDistance_le_of_editsTo (.done target))

theorem editDistance_comm (source target : List Char) :
    editDistance source target = editDistance target source := by
  have fewer : ∀ source target, editDistance source target ≤ editDistance target source := by
    intro source target
    exact editDistance_le_of_editsTo (editsTo_editDistance target source).symm
  exact Nat.le_antisymm (fewer source target) (fewer target source)

theorem editDistance_triangle (source middle target : List Char) :
    editDistance source target ≤ editDistance source middle + editDistance middle target :=
  editDistance_le_of_editsTo
    ((editsTo_editDistance source middle).trans (editsTo_editDistance middle target))

theorem length_le_editDistance (source target : List Char) :
    source.length - target.length ≤ editDistance source target := by
  have longer := (editsTo_editDistance source target).length_le
  omega

theorem editDistance_le_max (source target : List Char) :
    editDistance source target ≤ max source.length target.length := by
  have bounded := distance_le_max source.reverse target.reverse
  rwa [← editDistance_eq, List.length_reverse, List.length_reverse] at bounded

/-- The distance of two texts is the least number of edits that turn one into the other. It is
therefore a metric, at least the difference of the lengths and at most the larger one. -/
theorem editDistance_is_least_and_metric (source target : List Char) :
    IsLeast {count | EditsTo count source target} (editDistance source target) ∧
      (editDistance source target = 0 ↔ source = target) ∧
      editDistance source target = editDistance target source ∧
      (∀ middle, editDistance source target ≤
        editDistance source middle + editDistance middle target) ∧
      source.length - target.length ≤ editDistance source target ∧
      target.length - source.length ≤ editDistance source target ∧
      editDistance source target ≤ max source.length target.length := by
  refine ⟨isLeast_editDistance source target, editDistance_eq_zero_iff,
    editDistance_comm source target, ?_, length_le_editDistance source target, ?_,
    editDistance_le_max source target⟩
  · intro middle
    exact editDistance_triangle source middle target
  · rw [editDistance_comm]
    exact length_le_editDistance target source

example : editDistance "kitten".toList "sitting".toList = 3 := by decide

end Scaffold.Text
