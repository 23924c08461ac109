import Scaffold.Proofs.Text.WordCase

/-!
# What a change of case keeps

What holds of all characters of a text holds of all characters of the text in another case, if changes
of case keep it and it holds of the characters that stand between words.
-/

set_option autoImplicit false

namespace Scaffold.Text

/-- Whether changes of case give only characters of a kind to characters of that kind, and so do the
ways to join words. -/
structure KeptByCase (holds : Char → Prop) : Prop where
  upper : ∀ {character result : Char}, holds character → result ∈ upperOf character → holds result
  lower : ∀ {character result : Char}, holds character → result ∈ lowerOf character → holds result
  underscore : holds '_'
  hyphen : holds '-'
  sigma : holds 'σ'
  lastSigma : holds 'ς'

/-- A set of codes that no change of case gives to a character of another code is kept out of a text
by changes of case. -/
theorem keptByCase_of_codes (codes : List Nat)
    (apartUpper : bitsOf (resulting upperRuns upperExpansions) &&& bitsOf codes = 0)
    (apartLower : bitsOf (resulting lowerRuns lowerExpansions) &&& bitsOf codes = 0)
    (closed : ∀ code < 128, code ∉ codes → (Char.ofNat code).toUpper.toNat ∉ codes ∧
      (Char.ofNat code).toLower.toNat ∉ codes)
    (joints : ∀ character ∈ ['_', '-', 'σ', 'ς'], character.toNat ∉ codes) :
    KeptByCase fun character => character.toNat ∉ codes where
  upper other member := not_mem_of_mem_change (fun _ => rfl) apartUpper
    (fun code below unlisted => (closed code below unlisted).1) other member
  lower other member := not_mem_of_mem_change (fun _ => rfl) apartLower
    (fun code below unlisted => (closed code below unlisted).2) other member
  underscore := joints _ (by decide)
  hyphen := joints _ (by decide)
  sigma := joints _ (by decide)
  lastSigma := joints _ (by decide)

section Members

variable {text : List Char} {result : Char}

theorem mem_of_mem_pascalFrom {starts : Bool} (member : result ∈ pascalFrom starts text) :
    ∃ character ∈ text, result = character ∨ result ∈ upperOf character := by
  induction text generalizing starts with
  | nil => cases member
  | cons first rest ih =>
    have later {again : Bool} (below : result ∈ pascalFrom again rest) :
        ∃ character ∈ first :: rest, result = character ∨ result ∈ upperOf character := by
      obtain ⟨character, among, given⟩ := ih below
      exact ⟨character, List.mem_cons_of_mem first among, given⟩
    unfold pascalFrom at member
    split at member
    · exact later member
    · split at member
      · rcases List.mem_append.1 member with begun | below
        · exact ⟨first, List.mem_cons_self, .inr begun⟩
        · exact later below
      · rcases List.mem_cons.1 member with same | below
        · exact ⟨first, List.mem_cons_self, .inl same⟩
        · exact later below

theorem mem_of_mem_breakWords {place : WordPlace} (member : result ∈ breakWords place text) :
    result ∈ text ∨ result = '_' := by
  induction text generalizing place with
  | nil => cases member
  | cons first rest ih =>
    have later {next : WordPlace} (below : result ∈ breakWords next rest) :
        result ∈ first :: rest ∨ result = '_' :=
      (ih below).imp_left (List.mem_cons_of_mem first)
    unfold breakWords at member
    split at member
    · rcases List.mem_cons.1 member with same | below
      · exact .inl (same ▸ List.mem_cons_self)
      · exact later below
    · split at member
      · rcases List.mem_cons.1 member with same | below
        · exact .inl (same ▸ List.mem_cons_self)
        · exact (List.mem_cons.1 below).elim .inr later
      · rcases List.mem_cons.1 member with same | below
        · exact .inl (same ▸ List.mem_cons_self)
        · exact later below

theorem mem_of_mem_breakHumps (member : result ∈ breakHumps text) :
    result ∈ text ∨ result = '_' := by
  induction text using breakHumps.induct with
  | case1 => cases member
  | case2 character => exact .inl member
  | case3 character next rest breaks ih =>
    rw [breakHumps, if_pos breaks] at member
    rcases List.mem_cons.1 member with same | below
    · exact .inl (same ▸ List.mem_cons_self)
    · rcases List.mem_cons.1 below with joint | later
      · exact .inr joint
      · exact (ih later).imp_left (List.mem_cons_of_mem character)
  | case4 character next rest unbroken ih =>
    rw [breakHumps, if_neg unbroken] at member
    rcases List.mem_cons.1 member with same | below
    · exact .inl (same ▸ List.mem_cons_self)
    · exact (ih below).imp_left (List.mem_cons_of_mem character)

theorem mem_of_mem_underscoreGaps {inGap : Bool} (member : result ∈ underscoreGaps inGap text) :
    result ∈ text ∨ result = '_' := by
  induction text generalizing inGap with
  | nil => cases member
  | cons first rest ih =>
    have later {next : Bool} (below : result ∈ underscoreGaps next rest) :
        result ∈ first :: rest ∨ result = '_' :=
      (ih below).imp_left (List.mem_cons_of_mem first)
    unfold underscoreGaps at member
    split at member
    · split at member
      · exact later member
      · exact (List.mem_cons.1 member).elim .inr later
    · rcases List.mem_cons.1 member with same | below
      · exact .inl (same ▸ List.mem_cons_self)
      · exact later below

end Members

section Kept

variable {holds : Char → Prop} (kept : KeptByCase holds)

include kept

theorem forall_mem_pascal {text : List Char} (all : ∀ character ∈ text, holds character) :
    ∀ result ∈ pascal text, holds result := by
  intro result member
  obtain ⟨character, among, rfl | raised⟩ := mem_of_mem_pascalFrom member
  · exact all result among
  · exact kept.upper (all character among) raised

theorem forall_mem_lower {text : List Char} (all : ∀ character ∈ text, holds character) :
    ∀ result ∈ lower text, holds result := by
  intro result member
  rcases mem_lower member with ⟨character, among, lowered⟩ | rfl | rfl
  · exact kept.lower (all character among) lowered
  · exact kept.lastSigma
  · exact kept.sigma

theorem forall_mem_snake {text : List Char} (all : ∀ character ∈ text, holds character) :
    ∀ result ∈ snake text, holds result := by
  refine forall_mem_lower kept fun result member => ?_
  rcases mem_of_mem_underscoreGaps member with unbroken | rfl
  · rcases mem_of_mem_breakHumps unbroken with whole | rfl
    · rcases mem_of_mem_breakWords whole with among | rfl
      · exact all result among
      · exact kept.underscore
    · exact kept.underscore
  · exact kept.underscore

theorem forall_mem_kebab {text : List Char} (all : ∀ character ∈ text, holds character) :
    ∀ result ∈ kebab text, holds result := by
  intro result member
  obtain ⟨character, among, rfl⟩ := List.mem_map.1 member
  unfold hyphenate
  split
  · exact kept.hyphen
  · exact forall_mem_snake kept all character among

end Kept

theorem forall_mem_stripSuffix {holds : Char → Prop} {name : String} (suffix : String)
    (all : ∀ character ∈ name.toList, holds character) :
    ∀ character ∈ (stripSuffix name suffix).toList, holds character :=
  fun character member => all character (mem_of_mem_stripSuffix member)

end Scaffold.Text
