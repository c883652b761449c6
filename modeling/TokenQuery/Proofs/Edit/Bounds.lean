import Mathlib.Data.List.Dedup
import TokenQuery.Proofs.Edit.Acceptance

/-!
Which indexes a commit writes to and removes. The removed ones come in descending order, so that a
removal leaves the indexes still to come below the shortened length. Main statement: a commit of
what is staged of a batch stays inside the sequence at every access, and the sequence loses as many
tokens as there are distinct indexes with a removal (`commit_inside`).
-/

set_option autoImplicit false

namespace TokenQuery

/-- The indexes at which a batch removes tokens, each of them once. -/
def Batch.removedIndexes (batch : List Edit) : List Nat :=
  ((batch.filter fun edit => edit.mutation = .remove).map (·.location.index)).dedup

namespace Sequence

variable {sequence : Sequence} {batch : List Edit} {staged : Staged} {tokens : List Token}
  {changed : List (Nat × Token)} {before removed later : List Nat} {index : Nat}

private theorem length_overwriteAll (tokens : List Token) (changed : List (Nat × Token)) :
    (overwriteAll tokens changed).length = tokens.length := by
  induction changed generalizing tokens with
  | nil => rfl
  | cons entry rest ih =>
    have step : overwriteAll tokens (entry :: rest) =
        overwriteAll (tokens.set entry.1 entry.2) rest := rfl
    rw [step, ih, List.length_set]

private theorem inside_eraseIdx (descending : (index :: removed).Pairwise (· > ·))
    (inside : index < tokens.length) : ∀ i ∈ removed, i < (tokens.eraseIdx index).length := by
  intro i member
  have below : i < index := List.rel_of_pairwise_cons descending member
  rw [List.length_eraseIdx_of_lt inside]
  omega

private theorem lt_length_eraseAll (descending : (before ++ index :: later).Pairwise (· > ·))
    (inside : ∀ i ∈ before ++ index :: later, i < tokens.length) :
    index < (eraseAll tokens before).length := by
  induction before generalizing tokens with
  | nil => exact inside index List.mem_cons_self
  | cons first before ih =>
    have step : eraseAll tokens (first :: before) = eraseAll (tokens.eraseIdx first) before := rfl
    have first_inside : first < tokens.length := inside first List.mem_cons_self
    rw [step]
    exact ih descending.of_cons (inside_eraseIdx descending first_inside)

private theorem length_eraseAll (descending : removed.Pairwise (· > ·))
    (inside : ∀ i ∈ removed, i < tokens.length) :
    (eraseAll tokens removed).length + removed.length = tokens.length := by
  induction removed generalizing tokens with
  | nil => rfl
  | cons first rest ih =>
    have step : eraseAll tokens (first :: rest) = eraseAll (tokens.eraseIdx first) rest := rfl
    have first_inside : first < tokens.length := inside first List.mem_cons_self
    have shorter := ih descending.of_cons (inside_eraseIdx descending first_inside)
    rw [List.length_eraseIdx_of_lt first_inside] at shorter
    rw [step, List.length_cons]
    omega

private theorem reflects_of_stage (succeeds : sequence.stage batch = .ok staged) :
    staged.Reflects sequence batch := by
  have accepts := accepts_of_stage succeeds
  obtain ⟨other, stages, reflects⟩ :=
    exists_stage_of_accepted ((accepts_iff_firstRefusal?_eq_none accepts.own).mp accepts)
  rw [ownEdits_of_own accepts.own, succeeds] at stages
  obtain rfl := Except.ok.inj stages
  exact reflects

private theorem removes_iff_mem_removedIndexes
    (own : ∀ edit ∈ batch, edit.location.source = sequence.name) :
    Batch.removes batch ⟨sequence.name, index⟩ = true ↔ index ∈ Batch.removedIndexes batch := by
  simp only [Batch.removes, Batch.mutationsAt, Batch.removedIndexes, List.mem_dedup,
    List.contains_iff_mem, List.mem_map, List.mem_filter, decide_eq_true_eq]
  constructor
  · rintro ⟨edit, ⟨member, here⟩, removing⟩
    exact ⟨edit, ⟨member, removing⟩, congrArg Location.index here⟩
  · rintro ⟨edit, ⟨member, removing⟩, rfl⟩
    refine ⟨edit, ⟨member, ?_⟩, removing⟩
    rw [← own edit member]

private theorem length_removed (succeeds : sequence.stage batch = .ok staged) :
    staged.removed.length = (Batch.removedIndexes batch).length := by
  have reflects := reflects_of_stage succeeds
  have own := (accepts_of_stage succeeds).own
  have once : staged.removed.Nodup := reflects.descending.imp Nat.ne_of_gt
  refine ((List.perm_ext_iff_of_nodup once (List.nodup_dedup _)).mpr ?_).length_eq
  intro index
  rw [reflects.mem_removed_iff, removes_iff_mem_removedIndexes own]
  rfl

/-- A commit of what is staged of a batch stays inside the sequence. A changed token has its place
there, whatever was written before. The removals go strictly downwards, and each of them is inside
what the ones before have left. In the end the sequence is shorter by the number of distinct indexes
at which the batch removes tokens. -/
theorem commit_inside (sequence : Sequence) (batch : List Edit) (staged : Staged)
    (succeeds : sequence.stage batch = .ok staged) :
    (∀ index token, (index, token) ∈ staged.changed →
      ∀ written, index < (overwriteAll sequence.tokens written).length) ∧
    staged.removed.Pairwise (· > ·) ∧
    (∀ before index later, staged.removed = before ++ index :: later →
      index < (eraseAll (overwriteAll sequence.tokens staged.changed) before).length) ∧
    (sequence.commit staged).size + (Batch.removedIndexes batch).length = sequence.size := by
  have reflects := reflects_of_stage succeeds
  have inside : ∀ index ∈ staged.removed,
      index < (overwriteAll sequence.tokens staged.changed).length := by
    intro index member
    rw [length_overwriteAll]
    exact reflects.removed_lt index member
  refine ⟨?_, reflects.descending, ?_, ?_⟩
  · intro index token member written
    rw [length_overwriteAll]
    exact reflects.changed_lt index (List.mem_map_of_mem member)
  · intro before index later split
    have descending := reflects.descending
    rw [split] at descending inside
    exact lt_length_eraseAll descending inside
  · have shorter := length_eraseAll reflects.descending inside
    rw [length_overwriteAll, length_removed succeeds] at shorter
    exact shorter

private def shelf : Sequence := ⟨"s", [⟨"A", ["1"]⟩, .bare "B", .bare "C", .bare "D"]⟩

private def clearance : List Edit :=
  [⟨⟨"s", 1⟩, .remove⟩, ⟨⟨"s", 3⟩, .remove⟩, ⟨⟨"s", 0⟩, .setArgument 0 "2"⟩, ⟨⟨"s", 1⟩, .remove⟩]

private def cleared : Staged where
  changed := [(1, .bare "B"), (3, .bare "D"), (0, ⟨"A", ["2"]⟩)]
  removed := [3, 1]
  edits := 4

/-- The last token goes before one that is removed twice, which is inside what is left then. -/
theorem commit_inside_clearance :
    shelf.stage clearance = .ok cleared ∧
      1 < (eraseAll (overwriteAll shelf.tokens cleared.changed) [3]).length ∧
      (shelf.commit cleared).size + [3, 1].length = shelf.size := by
  have accepted : shelf.stage clearance = .ok cleared := by rfl
  obtain ⟨_, _, inside, shorter⟩ := commit_inside shelf clearance cleared accepted
  exact ⟨accepted, inside [3] 1 [] rfl, shorter⟩

end Sequence

end TokenQuery
