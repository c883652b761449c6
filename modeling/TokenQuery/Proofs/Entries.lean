import Mathlib.Data.List.Basic
import Mathlib.Data.List.Induction
import TokenQuery.Entries

/-!
Entries collected from items one after another. Main statement: of the items with one key the last
one is entered (`lookup_collected`).
-/

set_option autoImplicit false

namespace TokenQuery.Entries

variable {κ α : Type} [DecidableEq κ]

/-- The items by their keys, set one after another. An item without a key is left out. -/
def collected (key : α → Option κ) (items : List α) : List (κ × α) :=
  items.foldl (fun entries item =>
    match key item with
    | none => entries
    | some k => set k item entries) []

variable {key : α → Option κ} {items : List α} {item : α} {k : κ}

theorem collected_concat_of_none (unkeyed : key item = none) :
    collected key (items ++ [item]) = collected key items := by
  rw [collected, List.foldl_concat, unkeyed, collected]

theorem collected_concat_of_some (keyed : key item = some k) :
    collected key (items ++ [item]) = set k item (collected key items) := by
  rw [collected, List.foldl_concat, keyed, collected]

theorem mem_map_fst_collected :
    k ∈ (collected key items).map (·.1) ↔ ∃ item ∈ items, key item = some k := by
  induction items using List.reverseRecOn with
  | nil => simp [collected]
  | append_singleton items item ih =>
    have either : (∃ other ∈ items ++ [item], key other = some k) ↔
        (∃ other ∈ items, key other = some k) ∨ key item = some k := by
      simp [or_and_right, exists_or]
    rw [either, ← ih]
    cases keyed : key item with
    | none =>
      rw [collected_concat_of_none keyed]
      simp
    | some own =>
      rw [collected_concat_of_some keyed, set, mem_map_fst_update, or_comm, Option.some.injEq,
        eq_comm (a := k)]

theorem nodup_map_fst_collected (key : α → Option κ) (items : List α) :
    ((collected key items).map (·.1)).Nodup := by
  induction items using List.reverseRecOn with
  | nil => exact List.nodup_nil
  | append_singleton items item ih =>
    cases keyed : key item with
    | none =>
      rw [collected_concat_of_none keyed]
      exact ih
    | some own =>
      rw [collected_concat_of_some keyed]
      exact nodup_map_fst_update ih own _

/-- Of the items with one key the last one counts. -/
theorem lookup_collected (key : α → Option κ) (items : List α) (k : κ) :
    (collected key items).lookup k = (items.filter fun item => key item = some k).getLast? := by
  induction items using List.reverseRecOn with
  | nil => rfl
  | append_singleton items item ih =>
    rw [List.filter_append, List.filter_singleton]
    cases keyed : key item with
    | none =>
      rw [collected_concat_of_none keyed, ih]
      simp
    | some own =>
      rw [collected_concat_of_some keyed]
      by_cases same : own = k
      · subst same
        simp
      · rw [lookup_set_of_ne (Ne.symm same), ih]
        simp [same]

theorem map_set {β : Type} (f : α → β) (k : κ) (value : α) (entries : List (κ × α)) :
    (set k value entries).map (Prod.map id f) = set k (f value) (entries.map (Prod.map id f)) := by
  induction entries with
  | nil => rfl
  | cons entry rest ih =>
    obtain ⟨own, _⟩ := entry
    simp only [set] at ih
    simp only [set, update, List.map_cons, Prod.map_apply, id_eq,
      apply_ite (List.map (Prod.map id f)), ih]

theorem collected_map {β : Type} (key : β → Option κ) (f : α → β) (items : List α) :
    collected key (items.map f) = (collected (key ∘ f) items).map (Prod.map id f) := by
  induction items using List.reverseRecOn with
  | nil => rfl
  | append_singleton items item ih =>
    rw [List.map_append, List.map_singleton]
    cases keyed : key (f item) with
    | none =>
      have before : (key ∘ f) item = none := keyed
      rw [collected_concat_of_none keyed, collected_concat_of_none before, ih]
    | some own =>
      have before : (key ∘ f) item = some own := keyed
      rw [collected_concat_of_some keyed, collected_concat_of_some before, map_set, ih]

theorem lookup_map {β : Type} (f : α → β) (entries : List (κ × α)) (k : κ) :
    (entries.map (Prod.map id f)).lookup k = (entries.lookup k).map f := by
  induction entries with
  | nil => rfl
  | cons entry rest ih =>
    obtain ⟨own, value⟩ := entry
    rw [List.map_cons, Prod.map_apply, id_eq, List.lookup_cons, List.lookup_cons, ih]
    cases k == own with
    | true => rfl
    | false => rfl

end TokenQuery.Entries
