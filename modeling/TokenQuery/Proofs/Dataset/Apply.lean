import TokenQuery.Proofs.Dataset.Reachable

/-!
What a batch does to a dataset that changes have reached. Main statements: a batch that succeeds
rewrites every source token by token (`apply_rewrites_every_source`), and one that fails does so
with its first error and leaves the dataset as it was (`apply_fails_with_first_error`).
-/

set_option autoImplicit false

namespace TokenQuery.Dataset

variable {dataset after : Dataset} {batch : List Edit} {count : Nat}

private theorem run_commitInPlace (dataset : Dataset) (total : Nat)
    (plan : List (Source × Staged)) :
    ((commitInPlace total plan).run.run dataset : Except QueryError Nat × Dataset) =
      (.ok (plan.foldl (fun total (_, staged) => total + staged.edits) total),
        { dataset with
          sequences := plan.foldl (fun sequences (source, staged) =>
            sequences.modify source.position (·.commit staged)) dataset.sequences }) := by
  induction plan generalizing dataset total with
  | nil => rfl
  | cons entry rest ih => exact ih (dataset.commitAt entry.1 entry.2) (total + entry.2.edits)

/-- Changing the sources in their places does the same as making a new dataset. A batch that fails
changes nothing. -/
private theorem Indexed.run_applyInPlace (indexed : dataset.Indexed) (batch : List Edit) :
    ((applyInPlace batch).run.run dataset : Except QueryError Nat × Dataset) =
      match (dataset.apply batch).result with
      | .ok (count, after) => (.ok count, after)
      | .error error => (.error error, dataset) := by
  have staging : ((applyInPlace batch).run.run dataset : Except QueryError Nat × Dataset) =
      match dataset.stage batch with
      | .ok plan => (commitInPlace 0 plan).run.run dataset
      | .error error => (.error error, dataset) := by
    have fetched : (ExceptT.mk (do return (← get).stage batch) :
        ExceptT QueryError (StateM Dataset) (List (Source × Staged))).run.run dataset =
          pure (dataset.stage batch, dataset) := rfl
    rw [applyInPlace, ExceptT.run_bind, StateT.run_bind, fetched]
    cases dataset.stage batch with
    | ok plan => rfl
    | error error => rfl
  rw [staging, indexed.apply_result]
  cases first : dataset.firstError? batch with
  | some error => rw [indexed.stage_of_firstError first]
  | none =>
    obtain ⟨plan, succeeds, planned⟩ := indexed.exists_stage_of_accepted first
    have counted := indexed.edits_of_planned (find?_of_firstError?_eq_none first) planned
    have writes (sequences : List Sequence) (source : Source) (staged : Staged)
        (there : sequences[source.position]? = some source.sequence) :
        sequences.modify source.position (·.commit staged) =
          sequences.set source.position (source.sequence.commit staged) := by
      rw [List.modify_eq_set, there, Option.getD_some]
    rw [succeeds]
    dsimp only
    rw [run_commitInPlace, counted, foldl_writes_of_planned writes planned]
    rfl

/-- A batch that succeeds counts every edit, keeps the sources with their names and their order, and
rewrites each of them. None of its edits is rejected. A token that is left keeps its name and stands
as far down as indexes below its own are removed. -/
theorem apply_rewrites_every_source (reachable : dataset.Reachable)
    (applied : (dataset.apply batch).result = .ok (count, after)) :
    count = batch.length ∧
      after = { dataset with sequences := dataset.sequences.map (·.rewritten batch) } ∧
      after.size = dataset.size ∧ after.names = dataset.names ∧
      (∀ earlier edit later, batch = earlier ++ edit :: later → ¬ dataset.Rejects earlier edit) ∧
      ∀ sequence ∈ dataset.sequences, ∀ index token, sequence.tokens[index]? = some token →
        Batch.removes batch ⟨sequence.name, index⟩ = false →
          (sequence.rewritten batch).tokens[index - sequence.removedBelow batch index]? =
              some (Batch.tokenAfter batch ⟨sequence.name, index⟩ token) ∧
            (Batch.tokenAfter batch ⟨sequence.name, index⟩ token).name = token.name := by
  have outcome := reachable.indexed.apply_result batch
  rw [applied] at outcome
  cases first : dataset.firstError? batch with
  | some error =>
    rw [first] at outcome
    cases outcome
  | none =>
    rw [first] at outcome
    obtain ⟨rfl, rfl⟩ := Prod.mk.inj (Except.ok.inj outcome)
    refine ⟨rfl, rfl, ?_, rewritten_names, firstError?_eq_none_iff.mp first, ?_⟩
    · simp only [size, rewritten, List.length_map]
    · intro sequence _ index token found stays
      exact ⟨Sequence.getElem?_rewritten found stays, rfl⟩

private def kept : Dataset :=
  (Change.extend [⟨"a", [⟨"f", ["1", "2"]⟩, .bare "g", .bare "h"]⟩, ⟨"b", [.bare "k"]⟩]).perform {}

private theorem kept_reachable : kept.Reachable := .step _ (.empty .standard .standard 0)

private def mixed : List Edit :=
  [⟨⟨"a", 1⟩, .remove⟩, ⟨⟨"b", 0⟩, .appendArgument "3"⟩, ⟨⟨"a", 0⟩, .removeArgument 0⟩,
    ⟨⟨"a", 1⟩, .remove⟩, ⟨⟨"a", 0⟩, .setArgument 0 "4"⟩]

/-- Edits of two sources in turn, one token of which is removed twice. -/
theorem apply_rewrites_mixed :
    (kept.apply mixed).result = .ok (5, kept.rewritten mixed) ∧
      (kept.rewritten mixed).names = kept.names ∧
      kept.sequences.map (·.rewritten mixed) =
        [⟨"a", [⟨"f", ["4"]⟩, .bare "h"]⟩, ⟨"b", [⟨"k", ["3"]⟩]⟩] := by
  have applied : (kept.apply mixed).result = .ok (5, kept.rewritten mixed) := by rfl
  have rewrites := apply_rewrites_every_source kept_reachable applied
  exact ⟨applied, rewrites.2.2.2.1, by decide⟩

/-- A batch fails exactly when one of its edits is rejected after the edits before it. It fails with
its first error, which is never that an edit comes to another source, and leaves the dataset as it
was. -/
theorem apply_fails_with_first_error (reachable : dataset.Reachable) (batch : List Edit) :
    ((∃ error, (dataset.apply batch).result = .error error) ↔
      ∃ earlier edit later, batch = earlier ++ edit :: later ∧ dataset.Rejects earlier edit) ∧
    ∀ error, (dataset.apply batch).result = .error error →
      ((applyInPlace batch).run.run dataset : Except QueryError Nat × Dataset) =
          (.error error, dataset) ∧
        ∃ cause, error = .edit cause ∧ dataset.firstError? batch = some cause ∧
          ∀ location name, cause ≠ .foreign location name := by
  have outcome := reachable.indexed.apply_result batch
  constructor
  · rw [outcome]
    cases first : dataset.firstError? batch with
    | none =>
      have accepted := firstError?_eq_none_iff.mp first
      simp only [reduceCtorEq, exists_false, false_iff]
      rintro ⟨earlier, edit, later, split, rejects⟩
      exact accepted earlier edit later split rejects
    | some cause =>
      exact ⟨fun _ => exists_rejects_of_firstError? first, fun _ => ⟨_, rfl⟩⟩
  · intro error failed
    refine ⟨by rw [reachable.indexed.run_applyInPlace, failed], ?_⟩
    rw [failed] at outcome
    cases first : dataset.firstError? batch with
    | none =>
      rw [first] at outcome
      cases outcome
    | some cause =>
      rw [first] at outcome
      refine ⟨cause, Except.error.inj outcome, rfl, ?_⟩
      rintro location name rfl
      exact firstError?_ne_foreign location name first

private def rejected : List Edit :=
  [⟨⟨"b", 7⟩, .remove⟩, ⟨⟨"a", 1⟩, .appendArgument "3"⟩, ⟨⟨"a", 1⟩, .removeArgument 0⟩,
    ⟨⟨"a", 1⟩, .setArgument 0 "4"⟩]

/-- The refusal within the first source counts, though an edit before it is refused by the second.
-/
theorem apply_fails_on_rejected :
    kept.firstError? rejected = some (.noArgument 0 (.bare "g") ⟨"a", 1⟩) ∧
      ((applyInPlace rejected).run.run kept : Except QueryError Nat × Dataset) =
        (.error (.edit (.noArgument 0 (.bare "g") ⟨"a", 1⟩)), kept) := by
  have failed : (kept.apply rejected).result =
      .error (.edit (.noArgument 0 (.bare "g") ⟨"a", 1⟩)) := by rfl
  exact ⟨by decide, ((apply_fails_with_first_error kept_reachable rejected).2 _ failed).1⟩

end TokenQuery.Dataset
