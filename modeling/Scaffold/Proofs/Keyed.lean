import Mathlib.Data.List.Nodup
import Scaffold.Keyed

/-!
# Looking up keys

Which keys are found among values under keys, and with which value, also after some were laid over
others.
-/

set_option autoImplicit false

namespace Scaffold.Keyed

variable {κ α : Type} [DecidableEq κ]

theorem mem_iff_get?_eq_some {key : κ} {value : α} {entries : Keyed κ α}
    (distinct : (keys entries).Nodup) :
    (key, value) ∈ entries ↔ get? key entries = some value := by
  induction entries with
  | nil => simp [get?]
  | cons entry entries ih =>
    obtain ⟨present, held⟩ := entry
    obtain ⟨fresh, below⟩ := List.nodup_cons.1 distinct
    rw [List.mem_cons, ih below, get?, Prod.mk.injEq]
    by_cases same : present = key
    · subst same
      have absent : get? present entries ≠ some value := by
        intro found
        exact fresh (List.mem_map.2 ⟨_, (ih below).2 found, rfl⟩)
      simp [absent, eq_comm]
    · simp [same, Ne.symm same]

theorem get?_append (key : κ) (entries others : Keyed κ α) :
    get? key (entries ++ others) = (get? key entries).or (get? key others) := by
  induction entries with
  | nil => rfl
  | cons entry entries ih =>
    obtain ⟨present, held⟩ := entry
    rw [List.cons_append, get?, get?, ih]
    split <;> rfl

theorem isSome_get?_iff {key : κ} {entries : Keyed κ α} :
    (get? key entries).isSome = true ↔ key ∈ keys entries := by
  induction entries with
  | nil => simp [get?, keys]
  | cons entry entries ih =>
    obtain ⟨present, held⟩ := entry
    rw [get?, keys, List.map_cons, List.mem_cons]
    by_cases same : present = key
    · simp [same]
    · rw [if_neg same, ih, keys]
      simp [Ne.symm same]

theorem get?_eq_none_iff {key : κ} {entries : Keyed κ α} :
    get? key entries = none ↔ key ∉ keys entries := by
  rw [← isSome_get?_iff, Bool.not_eq_true, Option.isSome_eq_false_iff, Option.isNone_iff_eq_none]

/-- The last value under a key counts. -/
theorem get?_overlay (key : κ) (lower upper : Keyed κ α) :
    get? key (overlay lower upper) = (get? key upper.reverse).or (get? key lower) := by
  induction upper generalizing lower with
  | nil => rfl
  | cons entry upper ih =>
    obtain ⟨present, held⟩ := entry
    have step : overlay lower ((present, held) :: upper) = overlay (put present held lower) upper :=
      rfl
    rw [step, ih, get?_put, List.reverse_cons, get?_append, Option.or_assoc]
    by_cases same : key = present
    · simp [get?, same]
    · simp [get?, same, Ne.symm same]

theorem isSome_get?_overlay_iff {key : κ} {lower upper : Keyed κ α} :
    (get? key (overlay lower upper)).isSome = true ↔
      key ∈ keys upper ∨ (get? key lower).isSome = true := by
  rw [get?_overlay, Option.isSome_or, Bool.or_eq_true, isSome_get?_iff, keys, keys,
    List.map_reverse, List.mem_reverse]

theorem get?_overlay_of_mem {key : κ} {value : α} {lower upper : Keyed κ α}
    (distinct : (keys upper).Nodup) (member : (key, value) ∈ upper) :
    get? key (overlay lower upper) = some value := by
  have reversed : (keys upper.reverse).Nodup := by
    rw [keys, List.map_reverse]
    exact List.nodup_reverse.2 distinct
  rw [get?_overlay, (mem_iff_get?_eq_some reversed).1 (List.mem_reverse.2 member),
    Option.some_or]

theorem get?_overlay_of_not_mem {key : κ} {lower upper : Keyed κ α} (absent : key ∉ keys upper) :
    get? key (overlay lower upper) = get? key lower := by
  have reversed : key ∉ keys upper.reverse := by
    rwa [keys, List.map_reverse, List.mem_reverse]
  rw [get?_overlay, get?_eq_none_iff.2 reversed, Option.none_or]

theorem mem_of_get?_eq_some {key : κ} {value : α} {entries : Keyed κ α}
    (found : get? key entries = some value) : (key, value) ∈ entries := by
  induction entries with
  | nil => cases found
  | cons entry entries ih =>
    obtain ⟨present, held⟩ := entry
    rw [get?] at found
    split at found
    · next same =>
      cases found
      rw [same]
      exact List.mem_cons_self
    · exact List.mem_cons_of_mem _ (ih found)

theorem mem_of_get?_overlay {key : κ} {value : α} {lower upper : Keyed κ α}
    (found : get? key (overlay lower upper) = some value) :
    (key, value) ∈ upper ∨ get? key lower = some value := by
  rw [get?_overlay, Option.or_eq_some_iff] at found
  rcases found with above | ⟨-, below⟩
  · exact .inl (List.mem_reverse.1 (mem_of_get?_eq_some above))
  · exact .inr below

theorem get?_map {β : Type} (convert : α → β) (key : κ) (entries : Keyed κ α) :
    get? key (entries.map fun entry => (entry.1, convert entry.2)) =
      (get? key entries).map convert := by
  induction entries with
  | nil => rfl
  | cons entry entries ih =>
    rw [List.map_cons, get?, get?, ih]
    split <;> rfl

theorem nodup_keys_overlay {lower : Keyed κ α} (distinct : (keys lower).Nodup)
    (upper : Keyed κ α) : (keys (overlay lower upper)).Nodup := by
  induction upper generalizing lower with
  | nil => exact distinct
  | cons entry upper ih => exact ih (nodup_keys_put entry.1 entry.2 lower distinct)

theorem put_of_not_mem {key : κ} {entries : Keyed κ α} (absent : key ∉ keys entries) (value : α) :
    put key value entries = entries ++ [(key, value)] := by
  induction entries with
  | nil => rfl
  | cons entry entries ih =>
    obtain ⟨present, old⟩ := entry
    rw [keys, List.map_cons, List.mem_cons, not_or] at absent
    rw [put, if_neg (Ne.symm absent.1), ih absent.2, List.cons_append]

theorem overlay_of_nodup {lower upper : Keyed κ α} (distinct : (keys (lower ++ upper)).Nodup) :
    overlay lower upper = lower ++ upper := by
  induction upper generalizing lower with
  | nil => exact (List.append_nil lower).symm
  | cons entry upper ih =>
    obtain ⟨key, value⟩ := entry
    have absent : key ∉ keys lower := by
      rw [keys, List.map_append, List.nodup_append] at distinct
      exact fun member => distinct.2.2 key member key List.mem_cons_self rfl
    have step : overlay lower ((key, value) :: upper) = overlay (put key value lower) upper := rfl
    rw [step, put_of_not_mem absent, ih]
    · rw [List.append_assoc, List.singleton_append]
    · rwa [List.append_assoc, List.singleton_append]

theorem ofList_of_nodup {entries : Keyed κ α} (distinct : (keys entries).Nodup) :
    ofList entries = entries := by
  have afterNone : (keys ([] ++ entries)).Nodup := distinct
  exact overlay_of_nodup afterNone

theorem nodup_keys_ofList (entries : Keyed κ α) : (keys (ofList entries)).Nodup := by
  have none : (keys ([] : Keyed κ α)).Nodup := List.nodup_nil
  exact nodup_keys_overlay none entries

theorem mem_of_get?_ofList {key : κ} {value : α} {entries : Keyed κ α}
    (found : get? key (ofList entries) = some value) : (key, value) ∈ entries := by
  rw [ofList, get?_overlay, get?, Option.or_none] at found
  exact List.mem_reverse.1 (mem_of_get?_eq_some found)

/-- With distinct keys the value in the upper entries counts. -/
theorem get?_overlay_of_nodup {upper : Keyed κ α} (distinct : (keys upper).Nodup) (key : κ)
    (lower : Keyed κ α) :
    get? key (overlay lower upper) = (get? key upper).or (get? key lower) := by
  cases found : get? key upper with
  | some value =>
    exact get?_overlay_of_mem distinct (mem_of_get?_eq_some found)
  | none =>
    have absent : get? key upper.reverse = none := by
      rw [get?_eq_none_iff, keys, List.map_reverse, List.mem_reverse]
      exact get?_eq_none_iff.1 found
    rw [get?_overlay, absent]

theorem isSome_get?_ofList_iff {key : κ} {entries : Keyed κ α} :
    (get? key (ofList entries)).isSome = true ↔ key ∈ keys entries := by
  rw [ofList, isSome_get?_overlay_iff]
  simp [get?]

theorem get?_ofList_map (value : κ → α) (key : κ) (names : List κ) :
    get? key (ofList (names.map fun name => (name, value name))) =
      if key ∈ names then some (value key) else none := by
  have keys_eq : keys (names.map fun name => (name, value name)) = names := by
    simp [keys, Function.comp_def]
  cases found : get? key (ofList (names.map fun name => (name, value name))) with
  | none =>
    have absent : key ∉ names := by
      intro member
      have present := isSome_get?_ofList_iff.2 (keys_eq ▸ member)
      rw [found] at present
      cases present
    rw [if_neg absent]
  | some held =>
    obtain ⟨name, member, same⟩ := List.mem_map.1 (mem_of_get?_ofList found)
    cases same
    rw [if_pos member]

end Scaffold.Keyed
