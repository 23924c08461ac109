import Mathlib.Data.List.Basic

/-!
# Texts of single octets

A text whose octets are all below 128 has one character for each of them. What is decided for a long
fixed text goes through its octets: its characters would first have to be found in them.
-/

set_option autoImplicit false

namespace Scaffold.Text

/-- The octets of a text as numbers. -/
def codes (text : String) : List Nat :=
  text.toByteArray.data.toList.map UInt8.toNat

/-- The characters of a text, if each of them is coded by one octet. -/
def ascii? (text : String) : Option (List Char) :=
  if (codes text).all (· < 128) then some ((codes text).map Char.ofNat) else none

theorem codes_eq_flatMap (text : String) :
    codes text = text.toList.flatMap fun character =>
      (String.utf8EncodeChar character).map UInt8.toNat := by
  have octets_eq : text.toByteArray.data.toList = text.toList.flatMap String.utf8EncodeChar := by
    rw [← String.utf8Encode_toList, List.utf8Encode, List.data_toByteArray, List.toList_toArray]
  rw [codes, octets_eq, List.map_flatMap]

/-- A character that is coded by octets below 128 is coded by its number alone. -/
theorem utf8EncodeChar_eq_of_small {character : Char}
    (small : ∀ code ∈ (String.utf8EncodeChar character).map UInt8.toNat, code < 128) :
    (String.utf8EncodeChar character).map UInt8.toNat = [character.toNat] := by
  have number_eq : character.val.toNat = character.toNat := rfl
  unfold String.utf8EncodeChar at small ⊢
  simp only [number_eq] at small ⊢
  split
  · next single => rw [List.map_singleton, UInt8.toNat_ofNat', Nat.mod_eq_of_lt (by omega)]
  · next several =>
    -- The first of several octets has its upper bit.
    exfalso
    rw [if_neg several] at small
    split at small
    · have first := small _ List.mem_cons_self
      rw [UInt8.toNat_ofNat'] at first
      omega
    · split at small
      · have first := small _ List.mem_cons_self
        rw [UInt8.toNat_ofNat'] at first
        omega
      · have first := small _ List.mem_cons_self
        rw [UInt8.toNat_ofNat'] at first
        omega

theorem toList_eq_of_ascii? {text : String} {characters : List Char}
    (read : ascii? text = some characters) : text.toList = characters := by
  unfold ascii? at read
  split at read
  · next small =>
    cases read
    rw [codes_eq_flatMap] at small ⊢
    simp only [List.all_eq_true, decide_eq_true_eq] at small
    generalize text.toList = letters at small ⊢
    induction letters with
    | nil => rfl
    | cons letter letters ih =>
      rw [List.flatMap_cons] at small ⊢
      obtain ⟨smallHere, smallBelow⟩ := List.forall_mem_append.1 small
      rw [utf8EncodeChar_eq_of_small smallHere, List.singleton_append, List.map_cons,
        Char.ofNat_toNat, ← ih smallBelow]
  · cases read

end Scaffold.Text
