import TokenQuery.Proofs.Dataset.Parts

/-!
Batches in another order. At one location the mutations of arguments build on each other, but the
edits at different locations do not meet, and a removal takes effect after all of them wherever it
stands. Main statement: batches with the same edits do the same when those at each location keep
their order, removals apart (`apply_eq_of_reordered`).
-/

set_option autoImplicit false

namespace TokenQuery

namespace Batch

/-- The mutations of a batch at a location that change arguments, in the order of the batch. -/
def changesAt (batch : List Edit) (location : Location) : List Mutation :=
  (mutationsAt batch location).filter (· ≠ .remove)

/-- The batches have the same edits, and at each location those that change arguments come in the
same order. -/
structure Reordered (batch other : List Edit) : Prop where
  perm : batch.Perm other
  changesAt_eq : ∀ location, changesAt batch location = changesAt other location

variable {batch other : List Edit} {location : Location} {token : Token}

private theorem changesAt_filter (wanted : Location → Bool) :
    changesAt (batch.filter fun edit => wanted edit.location) location =
      if wanted location then changesAt batch location else [] := by
  have mutations : mutationsAt (batch.filter fun edit => wanted edit.location) location =
      if wanted location then mutationsAt batch location else [] := by
    unfold mutationsAt
    rw [List.filter_filter]
    cases here : wanted location with
    | true =>
      rw [if_pos rfl]
      refine congrArg _ (List.filter_congr fun edit _ => ?_)
      by_cases same : edit.location = location <;> simp [same, here]
    | false =>
      rw [if_neg Bool.false_ne_true, List.map_eq_nil_iff, List.filter_eq_nil_iff]
      rintro edit _ both
      obtain ⟨same, wanted_here⟩ : edit.location = location ∧ wanted edit.location = true := by
        simpa using both
      rw [same, here] at wanted_here
      cases wanted_here
  rw [changesAt, mutations]
  split <;> rfl

namespace Reordered

theorem symm (reordered : Reordered batch other) : Reordered other batch :=
  ⟨reordered.perm.symm, fun location => (reordered.changesAt_eq location).symm⟩

theorem filter (reordered : Reordered batch other) (wanted : Location → Bool) :
    Reordered (batch.filter fun edit => wanted edit.location)
      (other.filter fun edit => wanted edit.location) := by
  refine ⟨reordered.perm.filter _, fun location => ?_⟩
  rw [changesAt_filter, changesAt_filter, reordered.changesAt_eq]

private theorem removes_eq (reordered : Reordered batch other) :
    removes batch location = removes other location := by
  have perm : (mutationsAt batch location).Perm (mutationsAt other location) :=
    (reordered.perm.filter _).map _
  rw [Bool.eq_iff_iff, removes, removes, List.contains_iff_mem, List.contains_iff_mem]
  exact perm.mem_iff

private theorem tokenAfter_eq (reordered : Reordered batch other) :
    tokenAfter batch location token = tokenAfter other location token := by
  have changes := reordered.changesAt_eq location
  rw [tokenAfter, tokenAfter, argsAfter, argsAfter, ← Mutation.foldl_effect_filter, ← changesAt,
    changes, changesAt, Mutation.foldl_effect_filter]

theorem survivor?_eq (reordered : Reordered batch other) :
    survivor? batch location token = survivor? other location token := by
  rw [survivor?, survivor?, reordered.removes_eq, reordered.tokenAfter_eq]

end Reordered

end Batch

variable {batch other : List Edit}

namespace Sequence

variable {sequence : Sequence}

private theorem rewritten_eq_of_reordered (reordered : Batch.Reordered batch other) :
    sequence.rewritten batch = sequence.rewritten other := by
  simp only [rewritten, reordered.survivor?_eq]

private theorem Accepts.of_reordered (accepts : sequence.Accepts batch)
    (reordered : Batch.Reordered batch other) : sequence.Accepts other := by
  refine ⟨?_, ?_, ?_⟩
  · intro edit member
    exact accepts.own edit (reordered.perm.mem_iff.mpr member)
  · intro edit member
    exact accepts.inside edit (reordered.perm.mem_iff.mpr member)
  · intro index token found
    have changes := reordered.changesAt_eq ⟨sequence.name, index⟩
    rw [← Mutation.goThrough_filter, ← Batch.changesAt, ← changes, Batch.changesAt,
      Mutation.goThrough_filter]
    exact accepts.goThrough index token found

end Sequence

namespace Dataset

variable {dataset : Dataset}

private theorem editsAt_reordered (dataset : Dataset) (reordered : Batch.Reordered batch other)
    (position : Nat) :
    Batch.Reordered (dataset.editsAt batch position) (dataset.editsAt other position) :=
  reordered.filter fun location => dataset.index[location.source]? == some position

private theorem Accepts.of_reordered (accepts : dataset.Accepts batch)
    (reordered : Batch.Reordered batch other) : dataset.Accepts other := by
  refine ⟨?_, ?_⟩
  · intro edit member
    exact accepts.known edit (reordered.perm.mem_iff.mpr member)
  · intro position sequence there
    exact (accepts.accepts position sequence there).of_reordered
      (dataset.editsAt_reordered reordered position)

private theorem editCount_eq_of_reordered (reordered : Batch.Reordered batch other) :
    dataset.editCount batch = dataset.editCount other := by
  have lengths (position : Nat) :
      (dataset.editsAt batch position).length = (dataset.editsAt other position).length :=
    (dataset.editsAt_reordered reordered position).perm.length_eq
  simp only [editCount, List.length_flatMap, lengths]

private theorem rewrittenInPlace_eq_of_reordered (reordered : Batch.Reordered batch other) :
    dataset.rewrittenInPlace batch = dataset.rewrittenInPlace other := by
  have rewrites (position : Nat) (sequence : Sequence) :
      sequence.rewritten (dataset.editsAt batch position) =
        sequence.rewritten (dataset.editsAt other position) :=
    Sequence.rewritten_eq_of_reordered (dataset.editsAt_reordered reordered position)
  simp only [rewrittenInPlace, rewrites]

/-- Of two batches with the same edits, those that change arguments in the same order at each
location, both are applied or both fail, and when they are applied they count the same and leave the
same dataset. -/
theorem apply_eq_of_reordered (dataset : Dataset) (reordered : Batch.Reordered batch other) :
    ((∃ error, (dataset.apply batch).result = .error error) ↔
      ∃ error, (dataset.apply other).result = .error error) ∧
    ∀ count after, (dataset.apply batch).result = .ok (count, after) ↔
      (dataset.apply other).result = .ok (count, after) := by
  have same (outcome : Nat × Dataset) : (dataset.apply batch).result = .ok outcome ↔
      (dataset.apply other).result = .ok outcome := by
    rw [apply_eq_ok_iff, apply_eq_ok_iff, editCount_eq_of_reordered reordered,
      rewrittenInPlace_eq_of_reordered reordered]
    exact and_congr_left fun _ =>
      ⟨fun accepts => accepts.of_reordered reordered,
        fun accepts => accepts.of_reordered reordered.symm⟩
  refine ⟨?_, fun count after => same (count, after)⟩
  cases applied : (dataset.apply batch).result with
  | ok outcome => simp [(same outcome).mp applied]
  | error error =>
    cases appliedOther : (dataset.apply other).result with
    | ok outcome =>
      rw [(same outcome).mpr appliedOther] at applied
      cases applied
    | error error => simp

private def mingled : List Edit :=
  [⟨⟨"a", 0⟩, .setArgument 1 "3"⟩, ⟨⟨"b", 0⟩, .appendArgument "4"⟩, ⟨⟨"a", 1⟩, .remove⟩,
    ⟨⟨"a", 0⟩, .removeArgument 0⟩, ⟨⟨"a", 1⟩, .appendArgument "5"⟩]

private def untangled : List Edit :=
  [⟨⟨"a", 0⟩, .setArgument 1 "3"⟩, ⟨⟨"a", 0⟩, .removeArgument 0⟩, ⟨⟨"a", 1⟩, .appendArgument "5"⟩,
    ⟨⟨"a", 1⟩, .remove⟩, ⟨⟨"b", 0⟩, .appendArgument "4"⟩]

/-- The edits of two sources are told apart, and a removal comes behind the edit that it stood
before. The dataset is one that changes reach. -/
theorem apply_eq_of_untangled :
    Batch.Reordered mingled untangled ∧
      ((ofSequences [⟨"a", [⟨"f", ["1", "2"]⟩, .bare "g"]⟩, ⟨"b", [.bare "k"]⟩]).apply
        mingled).result.map (fun (count, after) => (count, after.sequences)) =
          .ok (5, [⟨"a", [⟨"f", ["3"]⟩]⟩, ⟨"b", [⟨"k", ["4"]⟩]⟩]) ∧
      ((ofSequences [⟨"a", [⟨"f", ["1", "2"]⟩, .bare "g"]⟩, ⟨"b", [.bare "k"]⟩]).apply
        untangled).result.map (fun (count, after) => (count, after.sequences)) =
          .ok (5, [⟨"a", [⟨"f", ["3"]⟩]⟩, ⟨"b", [⟨"k", ["4"]⟩]⟩]) := by
  have reordered : Batch.Reordered mingled untangled := by
    refine ⟨by decide, fun location => ?_⟩
    by_cases first : ⟨"a", 0⟩ = location
    · subst first
      decide
    · by_cases second : ⟨"a", 1⟩ = location
      · subst second
        decide
      · by_cases third : ⟨"b", 0⟩ = location
        · subst third
          decide
        · simp [Batch.changesAt, Batch.mutationsAt, mingled, untangled, first, second, third]
  have applied : ∃ outcome, ((ofSequences [⟨"a", [⟨"f", ["1", "2"]⟩, .bare "g"]⟩,
      ⟨"b", [.bare "k"]⟩]).apply mingled).result = .ok outcome ∧ (outcome.1, outcome.2.sequences) =
        (5, [⟨"a", [⟨"f", ["3"]⟩]⟩, ⟨"b", [⟨"k", ["4"]⟩]⟩]) := ⟨_, rfl, by decide⟩
  obtain ⟨⟨count, after⟩, applied, contents⟩ := applied
  have again := ((apply_eq_of_reordered _ reordered).2 count after).mp applied
  refine ⟨reordered, ?_, ?_⟩
  · rw [applied]
    exact congrArg Except.ok contents
  · rw [again]
    exact congrArg Except.ok contents

end Dataset

end TokenQuery
