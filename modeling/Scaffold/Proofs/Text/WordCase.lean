import Scaffold.Proofs.Text.Blank
import Scaffold.Proofs.Text.LetterCase
import Scaffold.Text.Affix
import Scaffold.Text.WordCase

/-!
# Characters of joined words

Joining words takes the characters between them away, and no change of case brings one back: no letter
has a blank, a hyphen or an underscore for its upper case, or a blank or a hyphen for its lower case.
-/

set_option autoImplicit false

namespace Scaffold.Text

/-! ## Pascal case -/

def separatorCodes : List Nat :=
  [45, 95] ++ blankCodes

theorem isSeparator_iff {character : Char} :
    isSeparator character = true ↔ character.toNat ∈ separatorCodes := by
  have hyphen : character = '-' ↔ character.toNat = 45 := Char.toNat_inj.symm
  have underscore : character = '_' ↔ character.toNat = 95 := Char.toNat_inj.symm
  simp only [isSeparator, Bool.or_eq_true, beq_iff_eq, isBlank_iff, hyphen, underscore, separatorCodes,
    List.cons_append, List.nil_append, List.mem_cons, or_assoc]

theorem not_isSeparator_of_mem_upperOf {character : Char} (other : isSeparator character = false) :
    ∀ result ∈ upperOf character, isSeparator result = false := by
  intro result member
  have unlisted : character.toNat ∉ separatorCodes := by
    rw [← isSeparator_iff, other]
    exact Bool.false_ne_true
  refine Bool.eq_false_iff.2 fun separates => ?_
  exact not_mem_of_mem_change (fun _ => rfl) (by decide +kernel) (by decide +kernel) unlisted member
    (isSeparator_iff.1 separates)

theorem not_isSeparator_of_mem_pascalFrom {starts : Bool} {text : List Char} :
    ∀ character ∈ pascalFrom starts text, isSeparator character = false := by
  induction text generalizing starts with
  | nil =>
    intro character member
    cases member
  | cons first rest ih =>
    intro character member
    unfold pascalFrom at member
    split at member
    · exact ih character member
    · next other =>
      have notSeparator : isSeparator first = false := Bool.eq_false_iff.2 other
      split at member
      · rcases List.mem_append.1 member with begun | later
        · exact not_isSeparator_of_mem_upperOf notSeparator character begun
        · exact ih character later
      · rcases List.mem_cons.1 member with same | later
        · exact same ▸ notSeparator
        · exact ih character later

/-- No character of a text in Pascal case is blank. -/
theorem not_isBlank_of_mem_pascalCase {text : String} :
    ∀ character ∈ (pascalCase text).toList, isBlank character = false := by
  intro character member
  rw [pascalCase, String.toList_ofList] at member
  have separates := not_isSeparator_of_mem_pascalFrom character member
  simp only [isSeparator, Bool.or_eq_false_iff] at separates
  exact separates.2

/-- Whether a text is one word that begins in upper case. -/
structure IsPascal (text : List Char) : Prop where
  joined : ∀ character ∈ text, isSeparator character = false
  raised : ∀ first ∈ text.head?, upperOf first = [first]

theorem pascalFrom_false_eq_self {text : List Char}
    (joined : ∀ character ∈ text, isSeparator character = false) : pascalFrom false text = text := by
  induction text with
  | nil => rfl
  | cons character rest ih =>
    obtain ⟨other, others⟩ := List.forall_mem_cons.1 joined
    simp [pascalFrom, other, ih others]

/-- Pascal case leaves the texts as they are that have it already, and only those. -/
theorem pascal_eq_self_iff {text : List Char} : pascal text = text ↔ IsPascal text := by
  cases text with
  | nil =>
    constructor
    · intro _
      exact ⟨nofun, nofun⟩
    · intro _
      rfl
  | cons first rest =>
    have pascal_eq (joined : ∀ character ∈ first :: rest, isSeparator character = false) :
        pascal (first :: rest) = upperOf first ++ rest := by
      obtain ⟨other, others⟩ := List.forall_mem_cons.1 joined
      simp [pascal, pascalFrom, other, pascalFrom_false_eq_self others]
    constructor
    · intro same
      have joined : ∀ character ∈ first :: rest, isSeparator character = false := by
        intro character member
        rw [← same] at member
        exact not_isSeparator_of_mem_pascalFrom character member
      rw [pascal_eq joined, ← List.singleton_append] at same
      refine ⟨joined, ?_⟩
      intro found member
      cases member
      exact List.append_cancel_right same
    · intro isPascal
      rw [pascal_eq isPascal.joined, isPascal.raised first rfl, List.singleton_append]

/-! ## Snake case -/

def gapCodes : List Nat :=
  45 :: blankCodes

theorem isGap_iff {character : Char} : isGap character = true ↔ character.toNat ∈ gapCodes := by
  have hyphen : character = '-' ↔ character.toNat = 45 := Char.toNat_inj.symm
  simp only [isGap, Bool.or_eq_true, beq_iff_eq, isBlank_iff, hyphen, gapCodes, List.mem_cons]

theorem not_isGap_of_mem_lowerOf {character : Char} (other : isGap character = false) :
    ∀ result ∈ lowerOf character, isGap result = false := by
  intro result member
  have unlisted : character.toNat ∉ gapCodes := by
    rw [← isGap_iff, other]
    exact Bool.false_ne_true
  refine Bool.eq_false_iff.2 fun gap => ?_
  exact not_mem_of_mem_change (fun _ => rfl) (by decide +kernel) (by decide +kernel) unlisted member
    (isGap_iff.1 gap)

theorem not_isGap_of_mem_lower {text : List Char}
    (joined : ∀ character ∈ text, isGap character = false) :
    ∀ character ∈ lower text, isGap character = false := by
  intro character member
  rcases mem_lower member with ⟨source, among, lowered⟩ | rfl | rfl
  · exact not_isGap_of_mem_lowerOf (joined source among) character lowered
  · decide
  · decide

theorem not_isGap_of_mem_underscoreGaps {inGap : Bool} {text : List Char} :
    ∀ character ∈ underscoreGaps inGap text, isGap character = false := by
  induction text generalizing inGap with
  | nil => exact nofun
  | cons first rest ih =>
    unfold underscoreGaps
    split
    · split
      · exact ih
      · exact List.forall_mem_cons.2 ⟨by decide, ih⟩
    · next joined => exact List.forall_mem_cons.2 ⟨Bool.eq_false_iff.2 joined, ih⟩

/-- No character of a text in snake case is a hyphen or blank. -/
theorem not_isGap_of_mem_snake {text : List Char} :
    ∀ character ∈ snake text, isGap character = false :=
  not_isGap_of_mem_lower not_isGap_of_mem_underscoreGaps

/-! ## Feeds -/

theorem feed_not_mem_of_not_blank {text : List Char}
    (inked : ∀ character ∈ text, isBlank character = false) : '\n' ∉ text := by
  intro member
  exact absurd (inked '\n' member) (by decide)

theorem feed_not_mem_snake (text : List Char) : '\n' ∉ snake text := by
  intro member
  exact absurd (not_isGap_of_mem_snake '\n' member) (by decide)

theorem feed_not_mem_kebab (text : List Char) : '\n' ∉ kebab text := by
  intro member
  obtain ⟨character, among, same⟩ := List.mem_map.1 member
  unfold hyphenate at same
  split at same
  · cases same
  · exact feed_not_mem_snake text (same ▸ among)

/-! ## Suffixes -/

theorem mem_of_mem_stripSuffix {name suffix : String} {character : Char}
    (member : character ∈ (stripSuffix name suffix).toList) : character ∈ name.toList := by
  unfold stripSuffix at member
  split at member
  · rw [String.toList_ofList] at member
    exact List.mem_of_mem_take member
  · exact member

/-- What is left of a name without its suffix: what stands before the suffix if there is anything, and
otherwise the whole name. -/
inductive LeftWithout (suffix : List Char) : List Char → List Char → Prop where
  | stem {stem : List Char} : stem ≠ [] → LeftWithout suffix (stem ++ suffix) stem
  | whole {name : List Char} : (∀ stem, stem ≠ [] → name ≠ stem ++ suffix) →
      LeftWithout suffix name name

theorem LeftWithout.eq_stem {suffix stem remains : List Char}
    (left : LeftWithout suffix (stem ++ suffix) remains) (filled : stem ≠ []) : remains = stem := by
  generalize name_eq : stem ++ suffix = name at left
  cases left with
  | stem _ => exact (List.append_cancel_right name_eq).symm
  | whole none => exact absurd name_eq.symm (none stem filled)

theorem leftWithout_stripSuffix (name suffix : String) :
    LeftWithout suffix.toList name.toList (stripSuffix name suffix).toList := by
  by_cases ends : suffix.toList <:+ name.toList
  · obtain ⟨stem, name_eq⟩ := ends
    have has : hasSuffix name suffix = true := List.isSuffixOf_iff_suffix.2 ⟨stem, name_eq⟩
    by_cases same : name = suffix
    · -- A name that is the suffix has nothing before it.
      have kept : stripSuffix name suffix = name := by simp [stripSuffix, same]
      rw [kept]
      refine .whole ?_
      intro other filled name_eq
      rw [same] at name_eq
      exact filled (List.self_eq_append_left.1 name_eq)
    · have taken : (stripSuffix name suffix).toList = stem := by
        simp [stripSuffix, has, same, ← name_eq]
      rw [taken, ← name_eq]
      refine .stem ?_
      intro empty
      rw [empty, List.nil_append] at name_eq
      exact same (String.toList_inj.1 name_eq.symm)
  · have lacks : hasSuffix name suffix = false :=
      Bool.eq_false_iff.2 fun has => ends (List.isSuffixOf_iff_suffix.1 has)
    have kept : stripSuffix name suffix = name := by simp [stripSuffix, lacks]
    rw [kept]
    refine .whole ?_
    intro stem _ name_eq
    exact ends ⟨stem, name_eq.symm⟩

end Scaffold.Text
