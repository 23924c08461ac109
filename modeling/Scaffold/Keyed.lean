/-!
# Values under keys

Values under distinct keys, in the order in which the keys were first given.
-/

set_option autoImplicit false

namespace Scaffold

abbrev Keyed (κ : Type) (α : Type) := List (κ × α)

namespace Keyed

variable {κ α : Type} [DecidableEq κ]

def keys (entries : Keyed κ α) : List κ :=
  entries.map Prod.fst

def get? (key : κ) : Keyed κ α → Option α
  | [] => none
  | (present, value) :: entries => if present = key then some value else get? key entries

/-- Gives a key a value: in its place if the key is there, after all others if not. -/
def put (key : κ) (value : α) : Keyed κ α → Keyed κ α
  | [] => [(key, value)]
  | (present, old) :: entries =>
    if present = key then (present, value) :: entries else (present, old) :: put key value entries

def erase (key : κ) : Keyed κ α → Keyed κ α
  | [] => []
  | (present, value) :: entries =>
    if present = key then erase key entries else (present, value) :: erase key entries

/-- The entries of both, those of `upper` over those of `lower`. -/
def overlay (lower upper : Keyed κ α) : Keyed κ α :=
  upper.foldl (fun entries entry => put entry.1 entry.2 entries) lower

def ofList (entries : List (κ × α)) : Keyed κ α :=
  overlay [] entries

theorem get?_put (key other : κ) (value : α) (entries : Keyed κ α) :
    get? other (put key value entries) =
      if other = key then some value else get? other entries := by
  induction entries with
  | nil => by_cases same : key = other <;> simp [put, get?, same, eq_comm]
  | cons entry entries inductive_hypothesis =>
    obtain ⟨present, old⟩ := entry
    by_cases found : present = key
    · subst found
      by_cases same : present = other
      · simp [put, get?, same]
      · have different : ¬other = present := fun equal => same equal.symm
        simp [put, get?, same, different]
    · by_cases same : present = other
      · subst same
        simp [put, get?, found]
      · simp [put, get?, found, same, inductive_hypothesis]

theorem get?_erase (key other : κ) (entries : Keyed κ α) :
    get? other (erase key entries) = if other = key then none else get? other entries := by
  induction entries with
  | nil => simp [erase, get?]
  | cons entry entries inductive_hypothesis =>
    obtain ⟨present, old⟩ := entry
    by_cases found : present = key
    · subst found
      by_cases same : present = other
      · subst same
        simp [erase, inductive_hypothesis]
      · simp [erase, get?, same, inductive_hypothesis]
    · by_cases same : present = other
      · subst same
        simp [erase, get?, found]
      · simp [erase, get?, found, same, inductive_hypothesis]

theorem mem_keys_put (key other : κ) (value : α) (entries : Keyed κ α) :
    other ∈ keys (put key value entries) ↔ other = key ∨ other ∈ keys entries := by
  induction entries with
  | nil => simp [put, keys]
  | cons entry entries inductive_hypothesis =>
    obtain ⟨present, old⟩ := entry
    by_cases found : present = key
    · simp [put, keys, found]
    · have step : other ∈ (put key value entries).map Prod.fst ↔
          other = key ∨ other ∈ entries.map Prod.fst := inductive_hypothesis
      simp only [put, found, keys, if_false, List.map_cons, List.mem_cons, step]
      exact or_left_comm

theorem mem_keys_of_mem_keys_erase (key other : κ) (entries : Keyed κ α)
    (kept : other ∈ keys (erase key entries)) : other ∈ keys entries := by
  induction entries with
  | nil => exact kept
  | cons entry entries inductive_hypothesis =>
    obtain ⟨present, value⟩ := entry
    by_cases found : present = key
    · rw [erase, if_pos found] at kept
      exact List.mem_cons_of_mem _ (inductive_hypothesis kept)
    · rw [erase, if_neg found] at kept
      rcases List.mem_cons.1 kept with same | below
      · exact List.mem_cons.2 (Or.inl same)
      · exact List.mem_cons_of_mem _ (inductive_hypothesis below)

theorem nodup_keys_put (key : κ) (value : α) (entries : Keyed κ α)
    (distinct : (keys entries).Nodup) : (keys (put key value entries)).Nodup := by
  induction entries with
  | nil => simp [put, keys]
  | cons entry entries inductive_hypothesis =>
    obtain ⟨present, old⟩ := entry
    obtain ⟨fresh, below⟩ := List.nodup_cons.1 distinct
    by_cases found : present = key
    · rw [put, if_pos found]
      exact List.nodup_cons.2 ⟨fresh, below⟩
    · rw [put, if_neg found]
      refine List.nodup_cons.2 ⟨fun member => ?_, inductive_hypothesis below⟩
      rcases (mem_keys_put key present value entries).1 member with same | member
      · exact found same
      · exact fresh member

theorem nodup_keys_erase (key : κ) (entries : Keyed κ α)
    (distinct : (keys entries).Nodup) : (keys (erase key entries)).Nodup := by
  induction entries with
  | nil => exact distinct
  | cons entry entries inductive_hypothesis =>
    obtain ⟨present, value⟩ := entry
    obtain ⟨fresh, below⟩ := List.nodup_cons.1 distinct
    by_cases found : present = key
    · rw [erase, if_pos found]
      exact inductive_hypothesis below
    · rw [erase, if_neg found]
      exact List.nodup_cons.2
        ⟨fun member => fresh (mem_keys_of_mem_keys_erase key present entries member),
          inductive_hypothesis below⟩

end Keyed

end Scaffold
