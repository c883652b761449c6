import TokenQuery.Proofs.Dataset.Batch
import TokenQuery.Proofs.Edit.Acceptance
import TokenQuery.Proofs.Outcome

/-!
A batch on a dataset as the batches on its sequences. Main statement: a batch is applied exactly
when each of its edits comes to a position of the index and each sequence accepts the edits that
come to it, and every sequence is then rewritten by these (`apply_eq_ok_iff`). Nothing is asked of
the index.
-/

set_option autoImplicit false

namespace TokenQuery.Dataset

/-- Every edit of the batch comes to some position, and every sequence accepts the edits that come
to its own. -/
structure Accepts (dataset : Dataset) (batch : List Edit) : Prop where
  known : ∀ edit ∈ batch, dataset.index[edit.location.source]? ≠ none
  accepts : ∀ (position : Nat) (sequence : Sequence),
    dataset.sequences[position]? = some sequence →
      sequence.Accepts (dataset.editsAt batch position)

/-- How many edits of the batch come to sequences. -/
def editCount (dataset : Dataset) (batch : List Edit) : Nat :=
  (dataset.sources.flatMap fun source => dataset.editsAt batch source.position).length

/-- The dataset with every sequence rewritten by the edits that come to it. -/
def rewrittenInPlace (dataset : Dataset) (batch : List Edit) : Dataset :=
  { dataset with
    sequences := dataset.sequences.mapIdx fun position sequence =>
      sequence.rewritten (dataset.editsAt batch position) }

variable {dataset : Dataset} {batch : List Edit} {source : Source} {part : List (Source × Staged)}
  {parts : List (List (Source × Staged))} {sources : List Source}

private theorem checkSources_eq_ok_iff :
    dataset.checkSources batch = .ok () ↔
      ∀ edit ∈ batch, dataset.index[edit.location.source]? ≠ none := by
  have all_known : (batch.find? fun edit => dataset.index[edit.location.source]?.isNone) = none ↔
      ∀ edit ∈ batch, dataset.index[edit.location.source]? ≠ none := by
    simp [List.find?_eq_none]
  rw [← all_known, checkSources]
  cases batch.find? fun edit => dataset.index[edit.location.source]?.isNone with
  | none => simp
  | some edit => simp

private theorem stageAt_eq_ok_iff :
    dataset.stageAt batch source = .ok part ↔
      dataset.editsAt batch source.position = [] ∧ part = [] ∨
        dataset.editsAt batch source.position ≠ [] ∧
          ∃ staged, source.sequence.stage (dataset.editsAt batch source.position) = .ok staged ∧
            part = [(source, staged)] := by
  unfold stageAt
  cases dataset.editsAt batch source.position with
  | nil => simp [eq_comm]
  | cons edit rest =>
    dsimp only
    rw [bind_eq_ok_iff]
    simp [pure_eq_ok_iff]

private theorem exists_stageAt_eq_ok_iff :
    (∃ part, dataset.stageAt batch source = .ok part) ↔
      source.sequence.Accepts (dataset.editsAt batch source.position) := by
  simp only [stageAt_eq_ok_iff]
  constructor
  · rintro ⟨_, ⟨none_come, _⟩ | ⟨_, staged, succeeds, _⟩⟩
    · rw [none_come]
      exact Sequence.accepts_nil
    · exact Sequence.accepts_of_stage succeeds
  · intro accepts
    by_cases none_come : dataset.editsAt batch source.position = []
    · exact ⟨[], .inl ⟨none_come, rfl⟩⟩
    · obtain ⟨staged, succeeds⟩ := Sequence.exists_stage_of_accepts accepts
      exact ⟨_, .inr ⟨none_come, staged, succeeds, rfl⟩⟩

private theorem foldl_edits_of_stageAt (staged : dataset.stageAt batch source = .ok part)
    (total : Nat) :
    part.foldl (fun total (_, staged) => total + staged.edits) total =
      total + (dataset.editsAt batch source.position).length := by
  obtain ⟨none_come, rfl⟩ | ⟨_, staged, succeeds, rfl⟩ := stageAt_eq_ok_iff.mp staged
  · rw [none_come]
    rfl
  · rw [← (Sequence.edits_and_commit_of_stage succeeds).1]
    rfl

private theorem rewrites_of_stageAt (staged : dataset.stageAt batch source = .ok part) :
    Source.Rewrites
      (fun sequences (source, staged) =>
        sequences.set source.position (source.sequence.commit staged))
      (fun source => source.sequence.rewritten (dataset.editsAt batch source.position))
      source part := by
  intro sequences there
  obtain ⟨none_come, rfl⟩ | ⟨_, staged, succeeds, rfl⟩ := stageAt_eq_ok_iff.mp staged
  · obtain ⟨inside, here⟩ := List.getElem?_eq_some_iff.mp there
    dsimp only
    rw [none_come, Sequence.rewritten_of_ownEdits_eq_nil rfl, ← here, List.set_getElem_self]
    rfl
  · dsimp only
    rw [← (Sequence.edits_and_commit_of_stage succeeds).2]
    rfl

private theorem foldl_edits_of_stageAts
    (staged : List.Forall₂ (fun source part => dataset.stageAt batch source = .ok part)
      sources parts) (total : Nat) :
    parts.flatten.foldl (fun total (_, staged) => total + staged.edits) total =
      total + (sources.flatMap fun source => dataset.editsAt batch source.position).length := by
  induction staged generalizing total with
  | nil => rfl
  | cons here _ ih =>
    rw [List.flatten_cons, List.foldl_append, foldl_edits_of_stageAt here, ih, List.flatMap_cons,
      List.length_append, Nat.add_assoc]

private theorem stage_eq_ok_iff {plan : List (Source × Staged)} :
    dataset.stage batch = .ok plan ↔
      (∀ edit ∈ batch, dataset.index[edit.location.source]? ≠ none) ∧
        ∃ parts, List.Forall₂ (fun source part => dataset.stageAt batch source = .ok part)
          dataset.sources parts ∧ plan = parts.flatten := by
  unfold stage
  simp only [bind_eq_ok_iff, pure_eq_ok_iff, mapM_eq_ok_iff]
  rw [← checkSources_eq_ok_iff]
  constructor
  · rintro ⟨_, checked, parts, staged, rfl⟩
    exact ⟨checked, parts, staged, rfl⟩
  · rintro ⟨checked, parts, staged, rfl⟩
    exact ⟨(), checked, parts, staged, rfl⟩

private theorem accepts_iff_exists_stage :
    dataset.Accepts batch ↔ ∃ plan, dataset.stage batch = .ok plan := by
  have each : (∀ source ∈ dataset.sources, ∃ part, dataset.stageAt batch source = .ok part) ↔
      ∀ (position : Nat) (sequence : Sequence), dataset.sequences[position]? = some sequence →
        sequence.Accepts (dataset.editsAt batch position) := by
    simp only [exists_stageAt_eq_ok_iff]
    constructor
    · intro accepts position sequence there
      obtain ⟨inside, rfl⟩ := List.getElem?_eq_some_iff.mp there
      exact accepts ⟨dataset.store, position, _⟩ (List.mem_mapIdx.mpr ⟨position, inside, rfl⟩)
    · intro accepts source member
      exact accepts source.position source.sequence (getElem?_of_mem_sources member)
  rw [← exists_mapM_eq_ok_iff] at each
  simp only [mapM_eq_ok_iff] at each
  simp only [stage_eq_ok_iff]
  constructor
  · rintro ⟨known, accepts⟩
    obtain ⟨parts, staged⟩ := each.mpr accepts
    exact ⟨_, known, parts, staged, rfl⟩
  · rintro ⟨_, known, parts, staged, _⟩
    exact ⟨known, each.mp ⟨parts, staged⟩⟩

theorem result_apply (dataset : Dataset) (batch : List Edit) :
    (dataset.apply batch).result = (dataset.stage batch).map fun plan =>
      (plan.foldl (fun total (_, staged) => total + staged.edits) 0, dataset.commit plan) := by
  rw [apply, Traced.result_bind]
  cases staging : dataset.stage batch with
  | error error => rfl
  | ok plan => rfl

theorem edits_and_commit_of_stage {plan : List (Source × Staged)}
    (succeeds : dataset.stage batch = .ok plan) :
    plan.foldl (fun total (_, staged) => total + staged.edits) 0 = dataset.editCount batch ∧
      dataset.commit plan = dataset.rewrittenInPlace batch := by
  obtain ⟨_, parts, staged, rfl⟩ := stage_eq_ok_iff.mp succeeds
  constructor
  · rw [foldl_edits_of_stageAts staged, Nat.zero_add, editCount]
  · have written := foldl_rewrites (staged.imp fun _ _ => rewrites_of_stageAt)
    rw [sources_eq, List.map_map] at written
    rw [rewrittenInPlace, List.mapIdx_eq_zipIdx_map]
    exact congrArg (fun sequences => { dataset with sequences }) written

/-- A batch is applied exactly when the dataset accepts it. Every edit that comes to a sequence
counts, and every sequence is rewritten by those that come to it. -/
theorem apply_eq_ok_iff {outcome : Nat × Dataset} :
    (dataset.apply batch).result = .ok outcome ↔
      dataset.Accepts batch ∧
        outcome = (dataset.editCount batch, dataset.rewrittenInPlace batch) := by
  rw [accepts_iff_exists_stage, result_apply]
  cases staging : dataset.stage batch with
  | error error => simp [Except.map]
  | ok plan =>
    obtain ⟨edits, commit⟩ := edits_and_commit_of_stage staging
    simp [Except.map, edits, commit, eq_comm]

end TokenQuery.Dataset
