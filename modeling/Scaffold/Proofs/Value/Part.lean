import Mathlib.Tactic.MkIffOfInductiveProp
import Scaffold.Value.Basic

/-!
# Parts of values

What a value holds at any depth, the keys of its mappings among it, and what is found in it by
names. Where the keys of a mapping differ, a name leads to one value at most.
-/

set_option autoImplicit false

namespace Scaffold

/-- Whether no two keys of some entries are the same key. -/
def KeysDiffer (entries : List (Value × Value)) : Prop :=
  entries.Pairwise fun first second => first.1.sameKey second.1 = false

section PutEntry

variable {key value : Value} {entries : List (Value × Value)} {entry : Value × Value}

/-- Key and value of an entry come from the entry that is put or from ones that were there; of two
keys that are the same the first stays. -/
theorem parts_of_mem_putEntry (member : entry ∈ putEntry key value entries) :
    (entry.1 = key ∨ ∃ present ∈ entries, present.1 = entry.1) ∧
      (entry.2 = value ∨ ∃ present ∈ entries, present.2 = entry.2) := by
  induction entries with
  | nil =>
    obtain rfl : entry = (key, value) := List.mem_singleton.1 member
    exact ⟨.inl rfl, .inl rfl⟩
  | cons first entries ih =>
    obtain ⟨present, old⟩ := first
    rw [putEntry] at member
    split at member
    · rcases List.mem_cons.1 member with rfl | below
      · exact ⟨.inr ⟨_, List.mem_cons_self, rfl⟩, .inl rfl⟩
      · have kept := List.mem_cons_of_mem (present, old) below
        exact ⟨.inr ⟨entry, kept, rfl⟩, .inr ⟨entry, kept, rfl⟩⟩
    · rcases List.mem_cons.1 member with rfl | below
      · have kept := List.mem_cons_self (a := (present, old)) (l := entries)
        exact ⟨.inr ⟨_, kept, rfl⟩, .inr ⟨_, kept, rfl⟩⟩
      · have weaken {α : Type} (part : Value × Value → α) (wanted : α) :
            (∃ held ∈ entries, part held = wanted) →
              ∃ held ∈ (present, old) :: entries, part held = wanted :=
          fun ⟨held, member, same⟩ => ⟨held, List.mem_cons_of_mem _ member, same⟩
        exact (ih below).imp (Or.imp_right (weaken Prod.fst _)) (Or.imp_right (weaken Prod.snd _))

theorem KeysDiffer.putEntry (differ : KeysDiffer entries) (key value : Value) :
    KeysDiffer (putEntry key value entries) := by
  induction entries with
  | nil => exact List.pairwise_singleton _ _
  | cons first entries ih =>
    obtain ⟨present, old⟩ := first
    obtain ⟨fromFirst, below⟩ := List.pairwise_cons.1 differ
    rw [Scaffold.putEntry]
    split
    · exact List.pairwise_cons.2 ⟨fromFirst, below⟩
    · next different =>
      refine List.pairwise_cons.2 ⟨fun entry member => ?_, ih below⟩
      rcases (parts_of_mem_putEntry member).1 with same | ⟨kept, memberKept, same⟩
      · rw [same]
        exact Bool.eq_false_iff.2 different
      · rw [← same]
        exact fromFirst kept memberKept

end PutEntry

namespace Value

/-! ## Parts at any depth -/

/-- Whether a value is a part of another: the value itself, or a part of an item, a member, a key or
what is held under a key. -/
inductive IsPartOf (part : Value) : Value → Prop where
  | whole : IsPartOf part part
  | item {items : List Value} {item : Value} :
      item ∈ items → IsPartOf part item → IsPartOf part (.list items)
  | member {members : List Value} {member : Value} :
      member ∈ members → IsPartOf part member → IsPartOf part (.members members)
  | key {entries : List (Value × Value)} {entry : Value × Value} :
      entry ∈ entries → IsPartOf part entry.1 → IsPartOf part (.mapping entries)
  | held {entries : List (Value × Value)} {entry : Value × Value} :
      entry ∈ entries → IsPartOf part entry.2 → IsPartOf part (.mapping entries)

/-- Whether the keys differ in every mapping that is part of a value. -/
def WellKeyed (value : Value) : Prop :=
  ∀ entries, IsPartOf (.mapping entries) value → KeysDiffer entries

theorem wellKeyed_of_isKey {value : Value} (scalar : value.isKey = true) : WellKeyed value := by
  intro entries part
  cases part <;> cases scalar

theorem wellKeyed_list {items : List Value} (below : ∀ item ∈ items, WellKeyed item) :
    WellKeyed (.list items) := by
  intro entries part
  cases part with
  | item member part => exact below _ member entries part

theorem wellKeyed_members {members : List Value} (below : ∀ member ∈ members, WellKeyed member) :
    WellKeyed (.members members) := by
  intro entries part
  cases part with
  | member member part => exact below _ member entries part

theorem wellKeyed_mapping {entries : List (Value × Value)} (differ : KeysDiffer entries)
    (below : ∀ entry ∈ entries, WellKeyed entry.1 ∧ WellKeyed entry.2) :
    WellKeyed (.mapping entries) := by
  intro inner part
  cases part with
  | whole => exact differ
  | key member part => exact (below _ member).1 inner part
  | held member part => exact (below _ member).2 inner part

mutual

/-- Looks for octets among all parts of a value. -/
def holdsOctets : Value → Bool
  | .octets _ => true
  | .list items => anyHoldsOctets items
  | .members contained => anyHoldsOctets contained
  | .mapping entries => anyEntryHoldsOctets entries
  | _ => false

def anyHoldsOctets : List Value → Bool
  | [] => false
  | value :: values => holdsOctets value || anyHoldsOctets values

def anyEntryHoldsOctets : List (Value × Value) → Bool
  | [] => false
  | (key, held) :: entries => holdsOctets key || holdsOctets held || anyEntryHoldsOctets entries

end

/-- The entries of a mapping; other values have none. -/
def entries : Value → List (Value × Value)
  | .mapping entries => entries
  | _ => []

def IsMapping (value : Value) : Prop :=
  ∃ entries, value = .mapping entries

/-- Whether a value is a mapping from texts. -/
@[mk_iff]
structure IsNamed (value : Value) : Prop where
  isMapping : value.IsMapping
  named : ∀ entry ∈ value.entries, ∃ name, entry.1 = .text name

variable {value part other : Value} {name : String}

theorem isPartOf_of_mem_entries {entry : Value × Value} (member : entry ∈ value.entries)
    (part : IsPartOf other entry.2) : IsPartOf other value := by
  cases value with
  | mapping entries => exact .held member part
  | _ => cases member

theorem eq_of_text_mem {entries : List (Value × Value)} (differ : KeysDiffer entries)
    (member : (.text name, part) ∈ entries) (again : (.text name, other) ∈ entries) :
    part = other := by
  have same : (Value.text name).sameKey (.text name) = true := beq_self_eq_true name
  induction entries with
  | nil => cases member
  | cons first entries ih =>
    obtain ⟨fromFirst, below⟩ := List.pairwise_cons.1 differ
    rcases List.mem_cons.1 member with rfl | memberBelow
    · rcases List.mem_cons.1 again with equal | againBelow
      · exact (congrArg Prod.snd equal).symm
      · rw [fromFirst _ againBelow] at same
        cases same
    · rcases List.mem_cons.1 again with rfl | againBelow
      · rw [fromFirst _ memberBelow] at same
        cases same
      · exact ih below memberBelow againBelow

/-- Whether a value holds no octets at any depth, and keys that differ. -/
structure IsPlain (value : Value) : Prop where
  wellKeyed : WellKeyed value
  plain : ∀ octets, ¬IsPartOf (.octets octets) value

theorem IsPlain.held (isPlain : value.IsPlain) {entry : Value × Value}
    (member : entry ∈ value.entries) : entry.2.IsPlain :=
  ⟨fun entries part => isPlain.wellKeyed entries (isPartOf_of_mem_entries member part),
    fun octets part => isPlain.plain octets (isPartOf_of_mem_entries member part)⟩

end Value

end Scaffold
