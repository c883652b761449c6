/-!
Lists of entries, each a key with a value, in the order in which the keys were first seen.
-/

set_option autoImplicit false

namespace TokenQuery.Entries

variable {κ α : Type} [DecidableEq κ]

/-- Changes the value of a key in its place, or adds the key at the end; `change` is given the value
so far. -/
def update (key : κ) (change : Option α → α) : List (κ × α) → List (κ × α)
  | [] => [(key, change none)]
  | (k, value) :: rest =>
    if k = key then (k, change (some value)) :: rest else (k, value) :: update key change rest

def set (key : κ) (value : α) (entries : List (κ × α)) : List (κ × α) :=
  update key (fun _ => value) entries

@[simp] theorem lookup_update_self (key : κ) (change : Option α → α) (entries : List (κ × α)) :
    (update key change entries).lookup key = some (change (entries.lookup key)) := by
  induction entries with
  | nil => simp [update]
  | cons entry rest ih =>
    obtain ⟨k, value⟩ := entry
    by_cases h : k = key
    · simp [update, h]
    · have : (key == k) = false := by simpa using Ne.symm h
      simp [update, h, ih, List.lookup_cons, this]

theorem lookup_update_of_ne {key other : κ} (h : other ≠ key) (change : Option α → α)
    (entries : List (κ × α)) : (update key change entries).lookup other = entries.lookup other := by
  have ne : (other == key) = false := by simpa using h
  induction entries with
  | nil => simp [update, List.lookup_cons, ne]
  | cons entry rest ih =>
    obtain ⟨k, value⟩ := entry
    by_cases hk : k = key
    · subst hk; simp [update, List.lookup_cons, ne]
    · simp [update, hk, ih, List.lookup_cons]

@[simp] theorem lookup_set_self (key : κ) (value : α) (entries : List (κ × α)) :
    (set key value entries).lookup key = some value := by simp [set]

theorem lookup_set_of_ne {key other : κ} (h : other ≠ key) (value : α) (entries : List (κ × α)) :
    (set key value entries).lookup other = entries.lookup other :=
  lookup_update_of_ne h _ entries

private theorem map_fst_update (key : κ) (change : Option α → α) (entries : List (κ × α)) :
    (update key change entries).map (·.1) =
      if key ∈ entries.map (·.1) then entries.map (·.1) else entries.map (·.1) ++ [key] := by
  induction entries with
  | nil => simp [update]
  | cons entry rest ih =>
    obtain ⟨k, value⟩ := entry
    by_cases h : k = key
    · simp [update, h]
    · have ne : ¬ key = k := Ne.symm h
      simp only [update, if_neg h, List.map_cons, ih, List.mem_cons, ne, false_or]
      split <;> simp

theorem mem_map_fst_update {key other : κ} {change : Option α → α} {entries : List (κ × α)} :
    other ∈ (update key change entries).map (·.1) ↔ other = key ∨ other ∈ entries.map (·.1) := by
  rw [map_fst_update]
  split
  · rename_i present
    constructor
    · exact Or.inr
    · rintro (rfl | member)
      · exact present
      · exact member
  · rw [List.mem_append, List.mem_singleton, or_comm]

theorem nodup_map_fst_update {entries : List (κ × α)} (nodup : (entries.map (·.1)).Nodup)
    (key : κ) (change : Option α → α) : ((update key change entries).map (·.1)).Nodup := by
  rw [map_fst_update]
  split
  · exact nodup
  · rename_i absent
    refine List.nodup_append.mpr ⟨nodup, by simp, ?_⟩
    intro k member other single same
    rw [same, List.mem_singleton.mp single] at member
    exact absent member

end TokenQuery.Entries
