import Mathlib.Data.List.Nodup
import TokenQuery.Traversal

/-!
What a pass yields. Main statements: a cursor yields the indexes of its span from the end it starts
at, as many as are left to it (`indexes_eq`), and the tokens of a source come by increasing index
(`map_index_handles`), each of them once (`nodup_handles`).
-/

set_option autoImplicit false

namespace TokenQuery

namespace Cursor

variable {cursor after : Cursor} {index : Nat}

/-- What one step does: the index comes from the end that the cursor consumes. -/
theorem of_next?_eq_some (stepped : cursor.next? = some (index, after)) :
    cursor.front < cursor.back ∧ after.reverse = cursor.reverse ∧
      if cursor.reverse then
        index = cursor.back - 1 ∧ after.front = cursor.front ∧ after.back = cursor.back - 1
      else index = cursor.front ∧ after.front = cursor.front + 1 ∧ after.back = cursor.back := by
  unfold next? at stepped
  split at stepped
  · cases stepped
  · rename_i going
    have inside : cursor.front < cursor.back := by omega
    dsimp only at stepped
    split at stepped
    · rename_i backwards
      obtain ⟨rfl, rfl⟩ := Prod.mk.inj (Option.some.inj stepped)
      rw [if_pos backwards]
      exact ⟨inside, rfl, rfl, rfl, rfl⟩
    · rename_i forwards
      obtain ⟨rfl, rfl⟩ := Prod.mk.inj (Option.some.inj stepped)
      rw [if_neg forwards]
      exact ⟨inside, rfl, rfl, rfl, rfl⟩

theorem indexes_of_none (stopped : cursor.next? = none) : cursor.indexes = [] := by
  rw [indexes, steps_of_none stopped, List.map_nil]

theorem indexes_of_some (stepped : cursor.next? = some (index, after)) :
    cursor.indexes = index :: after.indexes := by
  rw [indexes, steps_of_some stepped, List.map_cons, indexes]

/-- The indexes of the span in the order in which the cursor comes to them. -/
def spanned (cursor : Cursor) : List Nat :=
  let span := List.range' cursor.front (cursor.back - cursor.front)
  if cursor.reverse then span.reverse else span

private theorem spanned_of_next?_eq_some (stepped : cursor.next? = some (index, after)) :
    cursor.spanned = index :: after.spanned := by
  obtain ⟨inside, direction, ends⟩ := of_next?_eq_some stepped
  obtain ⟨width, wide⟩ : ∃ width, cursor.back - cursor.front = width + 1 :=
    ⟨cursor.back - cursor.front - 1, by omega⟩
  unfold spanned
  rw [direction]
  split at ends
  · rename_i backwards
    obtain ⟨rfl, front, back⟩ := ends
    have last : cursor.front + width = cursor.back - 1 := by omega
    have narrower : cursor.back - 1 - cursor.front = width := by omega
    rw [if_pos backwards, if_pos backwards, front, back, wide, narrower, List.range'_1_concat,
      List.reverse_append, last]
    rfl
  · rename_i forwards
    obtain ⟨rfl, front, back⟩ := ends
    have narrower : cursor.back - (cursor.front + 1) = width := by omega
    rw [if_neg forwards, if_neg forwards, front, back, wide, narrower, List.range'_succ]

/-- A cursor yields the indexes of its span in their order, as many as are left to it. The induction
is on this number, which a step lowers by one. -/
theorem indexes_eq (cursor : Cursor) : cursor.indexes = cursor.spanned.take cursor.left := by
  induction count : cursor.left generalizing cursor with
  | zero =>
    cases stepped : cursor.next? with
    | none => rw [indexes_of_none stepped, List.take_zero]
    | some yielded =>
      have lower := left_of_next?_eq_some stepped
      omega
  | succ left ih =>
    cases stepped : cursor.next? with
    | none =>
      have none_left := left_of_next?_eq_none stepped
      omega
    | some yielded =>
      have lower := left_of_next?_eq_some stepped
      rw [indexes_of_some stepped, spanned_of_next?_eq_some stepped, List.take_succ_cons,
        ih yielded.2 (by omega)]

theorem length_spanned (cursor : Cursor) : cursor.spanned.length = cursor.back - cursor.front := by
  unfold spanned
  split <;> simp

private theorem nodup_spanned (cursor : Cursor) : cursor.spanned.Nodup := by
  have span : (List.range' cursor.front (cursor.back - cursor.front)).Nodup := List.nodup_range'
  unfold spanned
  split
  · exact List.nodup_reverse.mpr span
  · exact span

private theorem left_le (cursor : Cursor) : cursor.left ≤ cursor.back - cursor.front := by
  unfold left
  split <;> omega

theorem length_indexes (cursor : Cursor) : cursor.indexes.length = cursor.left := by
  rw [indexes_eq, List.length_take, length_spanned]
  exact Nat.min_eq_left cursor.left_le

theorem nodup_indexes (cursor : Cursor) : cursor.indexes.Nodup := by
  rw [indexes_eq]
  exact cursor.nodup_spanned.sublist (List.take_sublist _ _)

end Cursor

/-- Every token of a source, by increasing index. -/
def Source.handles (source : Source) : List Handle :=
  (List.range source.sequence.size).filterMap source.at?

namespace Source

variable {source : Source} {handle : Handle}

theorem mem_handles_iff : handle ∈ source.handles ↔ handle.source = source := by
  simp only [handles, List.mem_filterMap, List.mem_range, at?_eq_some_iff]
  constructor
  · rintro ⟨_, _, here, _⟩
    exact here
  · rintro rfl
    exact ⟨handle.index, handle.index_lt, rfl, rfl⟩

theorem map_index_handles (source : Source) :
    source.handles.map (·.index) = List.range source.sequence.size := by
  have own : ∀ index ∈ List.range source.sequence.size,
      (source.at? index).map (·.index) = some index := by
    intro index member
    rw [at?, dif_pos (List.mem_range.mp member), Option.map_some]
  rw [handles, List.map_filterMap, List.filterMap_congr own, List.filterMap_some]

theorem nodup_handles (source : Source) : source.handles.Nodup := by
  have distinct : (source.handles.map (·.index)).Nodup := by
    rw [map_index_handles]
    exact List.nodup_range
  exact List.Nodup.of_map _ distinct

theorem count_flatMap_handles (sources : List Source) (handle : Handle) :
    (sources.flatMap handles).count handle = sources.count handle.source := by
  have once (source : Source) :
      source.handles.count handle = if source = handle.source then 1 else 0 := by
    rw [source.nodup_handles.count]
    simp only [mem_handles_iff, eq_comm]
  induction sources with
  | nil => rfl
  | cons source rest ih =>
    rw [List.flatMap_cons, List.count_append, once, ih, List.count_cons, Nat.add_comm]
    simp only [beq_iff_eq]

end Source

end TokenQuery
