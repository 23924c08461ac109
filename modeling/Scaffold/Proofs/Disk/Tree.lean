import Mathlib.Data.List.Induction
import Scaffold.Disk.Basic

/-!
# Trees and walks

A tree is sound if everything in it is in a directory. It grows when directories are put where
nothing was: what names led to before, they lead to afterwards.
-/

set_option autoImplicit false

namespace Scaffold

/-! ## Entries put and erased -/

namespace Keyed

variable {κ α : Type} [DecidableEq κ] {key : κ}

theorem put_put (first second : α) (entries : Keyed κ α) :
    put key second (put key first entries) = put key second entries := by
  induction entries with
  | nil => simp [put]
  | cons entry entries ih =>
    obtain ⟨present, old⟩ := entry
    by_cases found : present = key
    · simp [put, found]
    · simp [put, found, ih]

theorem erase_put {entries : Keyed κ α} (absent : get? key entries = none) (value : α) :
    erase key (put key value entries) = entries := by
  induction entries with
  | nil => simp [put, erase]
  | cons entry entries ih =>
    obtain ⟨present, old⟩ := entry
    by_cases found : present = key
    · simp [get?, found] at absent
    · rw [get?, if_neg found] at absent
      simp [put, erase, found, ih absent]

end Keyed

/-! ## Trees -/

namespace Tree

/-- Whether everything in a tree is in a directory. -/
def Sound (tree : Tree) : Prop :=
  ∀ place item, tree.item? place = some item → tree.item? place.dropLast = some .directory

/-- Whether a tree is another one with directories put where nothing was. -/
def Grows (old new : Tree) : Prop :=
  ∀ place, new.item? place = old.item? place ∨
    old.item? place = none ∧ new.item? place = some .directory

@[simp] theorem item?_root (tree : Tree) : tree.item? [] = some .directory := rfl

theorem ne_root_of_item? {tree : Tree} {place : Place} (absent : tree.item? place = none) :
    place ≠ [] := by
  rintro rfl
  cases absent

theorem Grows.refl (tree : Tree) : tree.Grows tree :=
  fun _ => .inl rfl

theorem Grows.trans {first second third : Tree} (below : first.Grows second)
    (above : second.Grows third) : first.Grows third := by
  intro place
  rcases below place with same | ⟨absent, made⟩
  · rw [← same]
    exact above place
  · rcases above place with same | ⟨absentLater, -⟩
    · exact .inr ⟨absent, same.trans made⟩
    · rw [made] at absentLater
      cases absentLater

theorem Grows.kept {old new : Tree} (grows : old.Grows new) {place : Place} {item : Item}
    (found : old.item? place = some item) : new.item? place = some item := by
  rcases grows place with same | ⟨absent, -⟩
  · rw [same, found]
  · rw [found] at absent
    cases absent

theorem Grows.file {old new : Tree} (grows : old.Grows new) {place : Place} {octets : ByteArray}
    {mode : Nat} (found : new.item? place = some (.file octets mode)) :
    old.item? place = some (.file octets mode) := by
  rcases grows place with same | ⟨-, made⟩
  · rw [← same, found]
  · rw [made] at found
    cases found

theorem grows_put {tree : Tree} {place : Place} (absent : tree.item? place = none) :
    tree.Grows (tree.put place .directory) := by
  intro other
  rw [item?_put _ _ _ _ (ne_root_of_item? absent)]
  by_cases same : other = place
  · rw [if_pos same, same]
    exact .inr ⟨absent, rfl⟩
  · rw [if_neg same]
    exact .inl rfl

theorem sound_bare : bare.Sound := by
  intro place item found
  cases place with
  | nil => rfl
  | cons name names => cases found

theorem Sound.put {tree : Tree} (sound : tree.Sound) {place : Place} {item : Item}
    (named : place ≠ []) (above : tree.item? place.dropLast = some .directory)
    (kept : item = .directory ∨ tree.item? place ≠ some .directory) :
    (tree.put place item).Sound := by
  intro other present found
  rw [item?_put _ _ _ _ named] at found ⊢
  have aboveFound : tree.item? other.dropLast = some .directory := by
    by_cases same : other = place
    · rwa [same]
    · rw [if_neg same] at found
      exact sound other present found
  by_cases aboveIt : other.dropLast = place
  · rw [if_pos aboveIt]
    rcases kept with rfl | notDirectory
    · rfl
    · rw [aboveIt] at aboveFound
      exact absurd aboveFound notDirectory
  · rw [if_neg aboveIt, aboveFound]

/-- Everything on the way to what is in a tree is a directory. -/
theorem Sound.above {tree : Tree} (sound : tree.Sound) {above below : Place} {item : Item}
    (found : tree.item? (above ++ below) = some item) (filled : below ≠ []) :
    tree.item? above = some .directory := by
  induction below using List.reverseRecOn generalizing item with
  | nil => exact absurd rfl filled
  | append_singleton below last ih =>
    have parent := sound _ _ found
    rw [← List.append_assoc, List.dropLast_concat] at parent
    cases below with
    | nil => rwa [List.append_nil] at parent
    | cons first below => exact ih parent (List.cons_ne_nil first below)

theorem directory_put {tree : Tree} {place other : Place}
    (notDirectory : tree.item? place ≠ some .directory)
    (directory : tree.item? other = some .directory) (item : Item) :
    (tree.put place item).item? other = some .directory := by
  have named : place ≠ [] := by
    rintro rfl
    exact notDirectory rfl
  rw [item?_put _ _ _ _ named]
  by_cases same : other = place
  · rw [same] at directory
    exact absurd directory notDirectory
  · rw [if_neg same, directory]

theorem put_put (tree : Tree) (place : Place) (first second : Item) :
    (tree.put place first).put place second = tree.put place second := by
  simp only [put, Keyed.put_put]

theorem remove_put {tree : Tree} {place : Place} (absent : tree.item? place = none)
    (item : Item) : (tree.put place item).remove place = tree := by
  have absentKey : Keyed.get? place tree.entries = none := by
    rwa [item?, if_neg (ne_root_of_item? absent)] at absent
  simp only [put, remove, Keyed.erase_put absentKey]

end Tree

/-! ## Walks -/

namespace Disk

theorem checkDirectory_eq_ok_iff {tree : Tree} {place : Place} :
    checkDirectory tree place = .ok () ↔ tree.item? place = some .directory := by
  unfold checkDirectory
  split <;> simp_all

theorem walk_cons_eq_ok_iff {tree : Tree} {start place : Place} {name : String}
    {names : List String} :
    walk tree start (name :: names) = .ok place ↔
      tree.item? start = some .directory ∧
        ((name = ".." ∧ walk tree start.dropLast names = .ok place) ∨
          (name ≠ ".." ∧ isLongName name = false ∧
            walk tree (start ++ [name]) names = .ok place)) := by
  rw [walk]
  cases checked : checkDirectory tree start with
  | error fault =>
    have none : tree.item? start ≠ some .directory := by
      intro found
      rw [checkDirectory_eq_ok_iff.2 found] at checked
      cases checked
    simp [bind, Except.bind, none]
  | ok =>
    have found := checkDirectory_eq_ok_iff.1 checked
    by_cases up : name = ".."
    · simp [bind, Except.bind, found, up]
    · cases long : isLongName name <;> simp [bind, Except.bind, found, up]

theorem walk_append {tree : Tree} {start place : Place} {above : List String}
    (walked : walk tree start above = .ok place) (below : List String) :
    walk tree start (above ++ below) = walk tree place below := by
  induction above generalizing start with
  | nil =>
    obtain rfl : start = place := by simpa [walk] using walked
    rfl
  | cons name above ih =>
    obtain ⟨found, turns⟩ := walk_cons_eq_ok_iff.1 walked
    rw [List.cons_append, walk, checkDirectory_eq_ok_iff.2 found]
    rcases turns with ⟨up, rest⟩ | ⟨named, short, rest⟩
    · simpa [bind, Except.bind, up] using ih rest
    · simpa [bind, Except.bind, named, short] using ih rest

theorem exists_walk_of_append {tree : Tree} {start place : Place} {above below : List String}
    (walked : walk tree start (above ++ below) = .ok place) :
    ∃ middle, walk tree start above = .ok middle ∧ walk tree middle below = .ok place := by
  induction above generalizing start with
  | nil => exact ⟨start, rfl, walked⟩
  | cons name above ih =>
    rw [List.cons_append, walk_cons_eq_ok_iff] at walked
    obtain ⟨found, ⟨up, rest⟩ | ⟨named, short, rest⟩⟩ := walked
    · obtain ⟨middle, led, leads⟩ := ih rest
      exact ⟨middle, walk_cons_eq_ok_iff.2 ⟨found, .inl ⟨up, led⟩⟩, leads⟩
    · obtain ⟨middle, led, leads⟩ := ih rest
      exact ⟨middle, walk_cons_eq_ok_iff.2 ⟨found, .inr ⟨named, short, led⟩⟩, leads⟩

theorem walk_mono {old new : Tree} {start place : Place} {names : List String}
    (kept : ∀ place, old.item? place = some .directory → new.item? place = some .directory)
    (walked : walk old start names = .ok place) : walk new start names = .ok place := by
  induction names generalizing start with
  | nil => exact walked
  | cons name names ih =>
    rw [walk_cons_eq_ok_iff] at walked ⊢
    obtain ⟨found, ⟨up, rest⟩ | ⟨named, short, rest⟩⟩ := walked
    · exact ⟨kept start found, .inl ⟨up, ih rest⟩⟩
    · exact ⟨kept start found, .inr ⟨named, short, ih rest⟩⟩

theorem walk_parent {tree : Tree} (sound : tree.Sound) {start place : Place}
    {names : List String} (above : tree.item? start.dropLast = some .directory)
    (walked : walk tree start names = .ok place) :
    tree.item? place.dropLast = some .directory := by
  induction names generalizing start with
  | nil =>
    obtain rfl : start = place := by simpa [walk] using walked
    exact above
  | cons name names ih =>
    obtain ⟨found, ⟨-, rest⟩ | ⟨-, -, rest⟩⟩ := walk_cons_eq_ok_iff.1 walked
    · exact ih (sound _ _ above) rest
    · exact ih (by rwa [List.dropLast_concat]) rest

end Disk

end Scaffold
