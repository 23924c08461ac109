import Scaffold.Proofs.Result
import Scaffold.Proofs.Value.Part
import Scaffold.Yaml.Content

/-!
# The keys of mappings that are read

In every mapping of a value that is read, at any depth, the keys differ.
-/

set_option autoImplicit false

namespace Scaffold.Yaml

open Value (WellKeyed)

theorem eq_ok_of_both_eq_ok {α β : Type} {first : Except Flaw α} {second : Except Flaw β}
    {results : α × β} (passed : both first second = .ok results) :
    first = .ok results.1 ∧ second = .ok results.2 := by
  cases first <;> cases second <;> cases passed
  exact ⟨rfl, rfl⟩

/-! ## Scalars -/

variable {value : Value}

theorem isKey_of_map_eq_ok {α ε δ : Type} {result : Except ε α} {make : α → Value}
    {convert : ε → δ} (scalar : ∀ content, (make content).isKey = true)
    (read : (result.map make).mapError convert = .ok value) : value.isKey = true := by
  obtain ⟨content, -, rfl⟩ := Result.map_eq_ok_iff.1 (Result.mapError_eq_ok_iff.1 read)
  exact scalar content

theorem isKey_of_momentValue {content : List Char} (read : momentValue content = .ok value) :
    value.isKey = true := by
  unfold momentValue at read
  split at read
  · cases read
  · split at read
    · exact isKey_of_map_eq_ok (fun _ => rfl) read
    · exact isKey_of_map_eq_ok (fun _ => rfl) read

/-- A scalar denotes what can be a key, and no collection. -/
theorem isKey_of_scalarValue {tag : Tag} {content : List Char}
    (read : scalarValue tag content = .ok value) : value.isKey = true := by
  cases tag with
  | null | text =>
    cases read
    rfl
  | truth | integer | number => exact isKey_of_map_eq_ok (fun _ => rfl) read
  | octets =>
    simp only [scalarValue] at read
    split at read
    · cases read
      rfl
    · cases read
  | moment => exact isKey_of_momentValue (Result.mapError_eq_ok_iff.1 read)
  | _ => cases read

theorem scalarValue_of_valueOf {depth : Nat} {tag : Tag} {content : List Char}
    (read : valueOf depth (.scalar tag content) = .ok value) :
    scalarValue tag content = .ok value := by
  cases tag with
  | null | text =>
    cases read
    rfl
  | truth | integer | number | octets | moment => exact Result.mapError_eq_ok_iff.1 read
  | _ => cases read

/-! ## Collections -/

theorem eq_ok_of_collection {depth : Nat} {tag usual : Tag} {result : Except Flaw Value}
    (read : collection depth tag usual result = .ok value) : result = .ok value := by
  unfold collection at read
  split at read
  · exact read
  · split at read <;> cases read

theorem wellKeyed_foldl_putEntry {given held : List (Value × Value)}
    (below : ∀ entry ∈ given, WellKeyed entry.1 ∧ WellKeyed entry.2) (differ : KeysDiffer held)
    (belowHeld : ∀ entry ∈ held, WellKeyed entry.1 ∧ WellKeyed entry.2) :
    WellKeyed
      (.mapping (given.foldl (fun entries entry => putEntry entry.1 entry.2 entries) held)) := by
  induction given generalizing held with
  | nil => exact Value.wellKeyed_mapping differ belowHeld
  | cons entry given ih =>
    obtain ⟨first, rest⟩ := List.forall_mem_cons.1 below
    refine ih rest (differ.putEntry entry.1 entry.2) fun put member => ?_
    obtain ⟨key, held⟩ := parts_of_mem_putEntry member
    constructor
    · rcases key with same | ⟨present, member, same⟩
      · exact same ▸ first.1
      · exact same ▸ (belowHeld present member).1
    · rcases held with same | ⟨present, member, same⟩
      · exact same ▸ first.2
      · exact same ▸ (belowHeld present member).2

/-- What is added to members one by one is all that they have. -/
theorem mem_of_mem_foldl {add : Value → List Value → List Value}
    (adds : ∀ {member other : Value} {members : List Value},
      other ∈ add member members → other = member ∨ other ∈ members)
    {given : List (Value × Value)} {held : List Value} {member : Value}
    (contained : member ∈ given.foldl (fun members entry => add entry.1 members) held) :
    (∃ entry ∈ given, entry.1 = member) ∨ member ∈ held := by
  induction given generalizing held with
  | nil => exact .inr contained
  | cons entry given ih =>
    rcases ih contained with ⟨other, below, same⟩ | among
    · exact .inl ⟨other, List.mem_cons_of_mem _ below, same⟩
    · rcases adds among with same | among
      · exact .inl ⟨entry, List.mem_cons_self, same.symm⟩
      · exact .inr among

mutual

theorem wellKeyed_of_valueOf {depth : Nat} {node : Node} {value : Value}
    (read : valueOf depth node = .ok value) : WellKeyed value := by
  cases node with
  | scalar tag content =>
    exact Value.wellKeyed_of_isKey (isKey_of_scalarValue (scalarValue_of_valueOf read))
  | sequence tag items =>
    obtain ⟨values, readValues, rfl⟩ := Result.map_eq_ok_iff.1 (eq_ok_of_collection read)
    exact Value.wellKeyed_list (wellKeyed_of_valuesOf readValues)
  | mapping tag entries =>
    cases tag with
    | members =>
      obtain ⟨held, readEntries, rfl⟩ := Result.map_eq_ok_iff.1 read
      refine Value.wellKeyed_members fun member contained => ?_
      have fromKey := mem_of_mem_foldl ?_ contained
      · rcases fromKey with ⟨entry, among, rfl⟩ | none
        · exact (wellKeyed_of_entriesOf readEntries entry among).1
        · cases none
      · -- Members are added one by one, each only if none is the same key.
        intro member other members added
        change other ∈ if members.any (·.sameKey member) then members else members ++ [member]
          at added
        split at added
        · exact .inr added
        · rcases List.mem_append.1 added with among | new
          · exact .inr among
          · exact .inl (List.mem_singleton.1 new)
    | _ =>
      obtain ⟨held, readEntries, rfl⟩ := Result.map_eq_ok_iff.1 (eq_ok_of_collection read)
      exact wellKeyed_foldl_putEntry (wellKeyed_of_entriesOf readEntries) List.Pairwise.nil nofun
  | unmergeable => cases read

theorem wellKeyed_of_valuesOf {depth : Nat} {items : List Node} {values : List Value}
    (read : valuesOf depth items = .ok values) : ∀ value ∈ values, WellKeyed value := by
  cases items with
  | nil =>
    cases read
    exact nofun
  | cons item items =>
    obtain ⟨⟨first, rest⟩, readBoth, rfl⟩ := Result.map_eq_ok_iff.1 read
    obtain ⟨readFirst, readRest⟩ := eq_ok_of_both_eq_ok readBoth
    exact List.forall_mem_cons.2 ⟨wellKeyed_of_valueOf readFirst, wellKeyed_of_valuesOf readRest⟩

theorem wellKeyed_of_entriesOf {depth : Nat} {entries : List (Node × Node)}
    {held : List (Value × Value)} (read : entriesOf depth entries = .ok held) :
    ∀ entry ∈ held, WellKeyed entry.1 ∧ WellKeyed entry.2 := by
  cases entries with
  | nil =>
    cases read
    exact nofun
  | cons entry entries =>
    obtain ⟨key, content⟩ := entry
    obtain ⟨⟨⟨⟨first, _⟩, value⟩, rest⟩, readBoth, rfl⟩ := Result.map_eq_ok_iff.1 read
    obtain ⟨readEntry, readRest⟩ := eq_ok_of_both_eq_ok readBoth
    obtain ⟨readKey, readValue⟩ := eq_ok_of_both_eq_ok readEntry
    have readFirst := (eq_ok_of_both_eq_ok readKey).1
    exact List.forall_mem_cons.2
      ⟨⟨wellKeyed_of_valueOf readFirst, wellKeyed_of_valueOf readValue⟩,
        wellKeyed_of_entriesOf readRest⟩

end

/-- A key is given once in every mapping of a value that is read; of entries with the same key the
last one counts. -/
theorem wellKeyed_of_read {text : String} (read : read text = .ok value) : WellKeyed value := by
  unfold Yaml.read at read
  cases parsed : Node.ofText? text.toList with
  | error fault =>
    rw [parsed] at read
    cases read
  | ok root? =>
    rw [parsed] at read
    cases root? with
    | none =>
      cases read
      exact Value.wellKeyed_of_isKey rfl
    | some root =>
      have denoted : (valueOf 0 root).mapError (·.fault) = .ok value := read
      exact wellKeyed_of_valueOf (Result.mapError_eq_ok_iff.1 denoted)

end Scaffold.Yaml
