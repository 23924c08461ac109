import Mathlib.Data.List.Basic
import Mathlib.Data.Nat.Bitwise
import Scaffold.Text.LetterCase

/-!
# Changes of case

What comes out of the tables of case mappings: no character of kinds that words do not consist of, and
none that would be changed again, so that upper and lower case are final. Sets of code points are
compared as the bits of numbers.
-/

set_option autoImplicit false

namespace Scaffold.Text

variable {runs : List CaseRun} {expansions : List (Nat × List Nat)}

/-! ## Sets of code points -/

/-- The number whose bits are at some code points. -/
def bitsOf (codes : List Nat) : Nat :=
  codes.foldr (fun code bits => 2 ^ code ||| bits) 0

theorem testBit_bitsOf (codes : List Nat) (code : Nat) :
    (bitsOf codes).testBit code = decide (code ∈ codes) := by
  induction codes with
  | nil => simp [bitsOf]
  | cons first codes ih =>
    have split : bitsOf (first :: codes) = 2 ^ first ||| bitsOf codes := rfl
    rw [split, Nat.testBit_or, ih, Nat.testBit_two_pow]
    simp [eq_comm]

theorem not_mem_of_bitsOf {codes others : List Nat} (apart : bitsOf codes &&& bitsOf others = 0)
    {code : Nat} (member : code ∈ codes) : code ∉ others := by
  intro memberOther
  have both := congrArg (Nat.testBit · code) apart
  simp only [Nat.testBit_and, testBit_bitsOf, member, memberOther, decide_true, Bool.and_self,
    Nat.zero_testBit] at both
  cases both

/-! ## What a table changes and gives -/

/-- The code points that a row maps. -/
def CaseRun.domain (run : CaseRun) : List Nat :=
  (List.range ((run.last - run.first) / run.step + 1)).map fun count => run.first + run.step * count

theorem CaseRun.mem_domain_of_covers {run : CaseRun} {code : Nat} (covers : run.covers code = true) :
    code ∈ run.domain := by
  simp only [CaseRun.covers, Bool.and_eq_true, decide_eq_true_eq, beq_iff_eq] at covers
  obtain ⟨⟨above, below⟩, stepped⟩ := covers
  have multiple : run.step * ((code - run.first) / run.step) = code - run.first :=
    Nat.mul_div_cancel' (Nat.dvd_of_mod_eq_zero stepped)
  have bounded : (code - run.first) / run.step ≤ (run.last - run.first) / run.step :=
    Nat.div_le_div_right (by omega)
  refine List.mem_map.2 ⟨(code - run.first) / run.step, List.mem_range.2 (by omega), ?_⟩
  omega

/-- The code points that a table changes. -/
def changing (runs : List CaseRun) (expansions : List (Nat × List Nat)) : List Nat :=
  runs.flatMap CaseRun.domain ++ expansions.map Prod.fst

/-- The code points that a table gives for others, and the one that stands for no character. -/
def resulting (runs : List CaseRun) (expansions : List (Nat × List Nat)) : List Nat :=
  0 :: (runs.flatMap fun run => run.domain.map fun code : Nat => (code + run.shift).toNat) ++
    expansions.flatMap fun entry => entry.2.map fun code => (Char.ofNat code).toNat

theorem toNat_ofNat (code : Nat) : (Char.ofNat code).toNat = code ∨ (Char.ofNat code).toNat = 0 := by
  by_cases valid : code.isValidChar
  · rw [Char.ofNat, dif_pos valid]
    exact .inl rfl
  · rw [Char.ofNat, dif_neg valid]
    exact .inr rfl

theorem mapped_eq_self {character : Char}
    (unchanged : character.toNat ∉ changing runs expansions) :
    mapped runs expansions character = [character] := by
  rw [changing, List.mem_append, not_or] at unchanged
  have absent : expansions.lookup character.toNat = none := by
    rw [List.lookup_eq_none_iff]
    intro entry member
    refine bne_iff_ne.2 fun same => unchanged.2 ?_
    exact same ▸ List.mem_map_of_mem member
  have uncovered : runs.find? (·.covers character.toNat) = none := by
    rw [List.find?_eq_none]
    intro run member covers
    exact unchanged.1 (List.mem_flatMap.2 ⟨run, member, run.mem_domain_of_covers covers⟩)
  rw [mapped, absent, uncovered]

theorem mem_resulting_of_mem_mapped {character result : Char}
    (member : result ∈ mapped runs expansions character) :
    mapped runs expansions character = [character] ∨ result.toNat ∈ resulting runs expansions := by
  unfold mapped at member ⊢
  split at member
  · next replacements found =>
    obtain ⟨before, after, split, -⟩ := List.lookup_eq_some_iff.1 found
    obtain ⟨code, among, rfl⟩ := List.mem_map.1 member
    refine .inr (List.mem_append_right _ (List.mem_flatMap.2
      ⟨(character.toNat, replacements), ?_, List.mem_map_of_mem among⟩))
    rw [split]
    exact List.mem_append_right _ List.mem_cons_self
  · split at member
    · next run found =>
      obtain rfl := List.mem_singleton.1 member
      have covers := List.find?_some found
      refine .inr (List.mem_append_left _ ?_)
      rcases toNat_ofNat (character.toNat + run.shift).toNat with same | zero
      · rw [same]
        refine List.mem_cons_of_mem _ (List.mem_flatMap.2
          ⟨run, List.mem_of_find?_eq_some found, List.mem_map.2 ⟨character.toNat, ?_, rfl⟩⟩)
        exact run.mem_domain_of_covers covers
      · rw [zero]
        exact List.mem_cons_self
    · exact .inl rfl

/-! ## Upper and lower case -/

section Change

variable {change : Char → List Char} {plain : Char → Char}
  (change_eq : ∀ character, change character =
    if character.toNat < 128 then [plain character] else mapped runs expansions character)

include change_eq

/-- A change of case gives no character of some codes to one of other codes if neither its function on
ASCII nor its table beyond does. -/
theorem not_mem_of_mem_change {codes : List Nat}
    (apart : bitsOf (resulting runs expansions) &&& bitsOf codes = 0)
    (closed : ∀ code < 128, code ∉ codes → (plain (Char.ofNat code)).toNat ∉ codes)
    {character result : Char} (other : character.toNat ∉ codes)
    (member : result ∈ change character) : result.toNat ∉ codes := by
  rw [change_eq] at member
  split at member
  · next below =>
    obtain rfl := List.mem_singleton.1 member
    have given := closed character.toNat below other
    rwa [Char.ofNat_toNat] at given
  · rcases mem_resulting_of_mem_mapped member with unchanged | results
    · rw [unchanged, List.mem_singleton] at member
      rwa [member]
    · exact not_mem_of_bitsOf apart results

/-- A change of case is final if it gives nothing that its function on ASCII or its table changes. -/
theorem change_of_mem_change (marked : List Nat)
    (apart : bitsOf (resulting runs expansions) &&& bitsOf (marked ++ changing runs expansions) = 0)
    (closed : ∀ code < 128,
      (plain (Char.ofNat code)).toNat < 128 ∧ (plain (Char.ofNat code)).toNat ∉ marked)
    (kept : ∀ code < 128, code ∉ marked → plain (Char.ofNat code) = Char.ofNat code)
    {character result : Char} (member : result ∈ change character) : change result = [result] := by
  have small (other : Char) (below : other.toNat < 128) (unmarked : other.toNat ∉ marked) :
      change other = [other] := by
    have other_eq := kept other.toNat below unmarked
    rw [Char.ofNat_toNat] at other_eq
    rw [change_eq, if_pos below, other_eq]
  have given := change_eq character
  split at given
  · next below =>
    obtain rfl := List.mem_singleton.1 (given ▸ member)
    have inside := closed character.toNat below
    rw [Char.ofNat_toNat] at inside
    exact small _ inside.1 inside.2
  · rw [given] at member
    rcases mem_resulting_of_mem_mapped member with unchanged | results
    · rw [unchanged, List.mem_singleton] at member
      rw [member, given, unchanged]
    · have fresh := not_mem_of_bitsOf apart results
      rw [List.mem_append, not_or] at fresh
      by_cases below : result.toNat < 128
      · exact small result below fresh.1
      · rw [change_eq, if_neg below]
        exact mapped_eq_self fresh.2

end Change

/-- Upper case is final, also where it is of several characters. -/
theorem upperOf_of_mem_upperOf {character result : Char} (member : result ∈ upperOf character) :
    upperOf result = [result] :=
  change_of_mem_change (fun _ => rfl) (List.range' 97 26) (by decide +kernel) (by decide +kernel)
    (by decide +kernel) member

theorem lowerOf_of_mem_lowerOf {character result : Char} (member : result ∈ lowerOf character) :
    lowerOf result = [result] :=
  change_of_mem_change (fun _ => rfl) (List.range' 65 26) (by decide +kernel) (by decide +kernel)
    (by decide +kernel) member

/-! ## Lower case of texts -/

/-- A text in lower case consists of what its characters have for their lower case, capital sigmas
aside. -/
theorem mem_lowerAfter {before text : List Char} {result : Char}
    (member : result ∈ lowerAfter before text) :
    (∃ character ∈ text, result ∈ lowerOf character) ∨ result = 'ς' ∨ result = 'σ' := by
  induction text generalizing before with
  | nil => cases member
  | cons first rest ih =>
    rcases List.mem_append.1 member with here | later
    · split at here
      · rw [List.mem_singleton] at here
        rw [here]
        refine .inr ?_
        split
        · exact .inl rfl
        · exact .inr rfl
      · exact .inl ⟨first, List.mem_cons_self, here⟩
    · rcases ih later with ⟨character, among, lowered⟩ | sigma
      · exact .inl ⟨character, List.mem_cons_of_mem _ among, lowered⟩
      · exact .inr sigma

theorem mem_lower {text : List Char} {result : Char} (member : result ∈ lower text) :
    (∃ character ∈ text, result ∈ lowerOf character) ∨ result = 'ς' ∨ result = 'σ' :=
  mem_lowerAfter member

theorem lowerOf_of_mem_lower {text : List Char} :
    ∀ result ∈ lower text, lowerOf result = [result] := by
  intro result member
  rcases mem_lower member with ⟨character, -, lowered⟩ | rfl | rfl
  · exact lowerOf_of_mem_lowerOf lowered
  · decide +kernel
  · decide +kernel

/-- Without capital sigmas a text is lowered character by character. -/
theorem lower_eq_flatMap {text : List Char} (noSigma : 'Σ' ∉ text) :
    lower text = text.flatMap lowerOf := by
  have general : ∀ before, lowerAfter before text = text.flatMap lowerOf := by
    induction text with
    | nil => exact fun _ => rfl
    | cons first rest ih =>
      rw [List.mem_cons, not_or] at noSigma
      intro before
      rw [lowerAfter, if_neg (Ne.symm noSigma.1), ih noSigma.2, List.flatMap_cons]
  exact general []

theorem lower_eq_self {text : List Char}
    (settled : ∀ character ∈ text, lowerOf character = [character]) : lower text = text := by
  have noSigma : 'Σ' ∉ text := fun member => absurd (settled 'Σ' member) (by decide +kernel)
  rw [lower_eq_flatMap noSigma, List.flatMap_congr settled, List.flatMap_singleton']

end Scaffold.Text
