import Mathlib.Data.List.Perm.Basic
import TokenQuery.Proofs.Dataset.Parts

/-!
A batch in two halves. The edits of the second half see the tokens as the first half leaves them, in
one batch as well as in two, and as long as the first half removes no token the locations of the
second mean the same. Main statement: two batches one after the other, the first of which removes
nothing, do what both do as one batch (`apply_append_of_keeps`).
-/

set_option autoImplicit false

namespace TokenQuery

namespace Batch

/-- The batch removes no token. -/
def Keeps (batch : List Edit) : Prop := ∀ edit ∈ batch, edit.mutation ≠ .remove

variable {batch other : List Edit} {location : Location} {token : Token}

private theorem tokenAfter_append :
    tokenAfter (batch ++ other) location token =
      tokenAfter other location (tokenAfter batch location token) := by
  rw [tokenAfter, argsAfter_append]
  rfl

private theorem removes_append :
    removes (batch ++ other) location = (removes batch location || removes other location) := by
  rw [removes, mutationsAt_append, List.contains_append]
  rfl

namespace Keeps

private theorem removes_eq_false (keeps : Keeps batch) : removes batch location = false := by
  rw [removes, List.contains_eq_mem, decide_eq_false_iff_not, mutationsAt, List.mem_map]
  rintro ⟨edit, member, removal⟩
  exact keeps edit (List.mem_of_mem_filter member) removal

theorem survivor?_eq (keeps : Keeps batch) :
    survivor? batch location token = some (tokenAfter batch location token) :=
  survivor?_of_not_removes (by simp [keeps.removes_eq_false])

private theorem survivor?_append (keeps : Keeps batch) :
    survivor? (batch ++ other) location token =
      survivor? other location (tokenAfter batch location token) := by
  rw [survivor?, survivor?, removes_append, keeps.removes_eq_false, Bool.false_or,
    tokenAfter_append]

end Keeps

end Batch

variable {batch other : List Edit}

namespace Sequence

variable {sequence : Sequence}

private theorem tokens_rewritten_of_keeps (keeps : Batch.Keeps batch) :
    (sequence.rewritten batch).tokens =
      sequence.tokens.mapIdx fun index token =>
        Batch.tokenAfter batch ⟨sequence.name, index⟩ token := by
  simp only [rewritten, keeps.survivor?_eq, List.mapIdx_eq_zipIdx_map]
  rw [← List.filterMap_eq_map]
  rfl

private theorem size_rewritten_of_keeps (keeps : Batch.Keeps batch) :
    (sequence.rewritten batch).size = sequence.size := by
  rw [size, tokens_rewritten_of_keeps keeps, List.length_mapIdx, size]

private theorem rewritten_append (keeps : Batch.Keeps batch) :
    sequence.rewritten (batch ++ other) = (sequence.rewritten batch).rewritten other := by
  have tokens : (sequence.rewritten (batch ++ other)).tokens =
      ((sequence.rewritten batch).rewritten other).tokens := by
    conv =>
      rhs
      rw [rewritten]
    rw [tokens_rewritten_of_keeps keeps, zipIdx_mapIdx, List.filterMap_map, rewritten]
    simp only [keeps.survivor?_append]
    rfl
  exact congrArg (Sequence.mk sequence.name) tokens

private theorem accepts_append (keeps : Batch.Keeps batch) :
    sequence.Accepts (batch ++ other) ↔
      sequence.Accepts batch ∧ (sequence.rewritten batch).Accepts other := by
  have through (index : Nat) (token : Token) :
      Mutation.GoThrough token.args
          (Batch.mutationsAt (batch ++ other) ⟨sequence.name, index⟩) ↔
        Mutation.GoThrough token.args (Batch.mutationsAt batch ⟨sequence.name, index⟩) ∧
          Mutation.GoThrough (Batch.tokenAfter batch ⟨sequence.name, index⟩ token).args
            (Batch.mutationsAt other ⟨sequence.name, index⟩) := by
    rw [Batch.mutationsAt_append, Mutation.goThrough_append]
    rfl
  have found (index : Nat) : (sequence.rewritten batch).tokens[index]? =
      sequence.tokens[index]?.map (Batch.tokenAfter batch ⟨sequence.name, index⟩) := by
    rw [tokens_rewritten_of_keeps keeps, List.getElem?_mapIdx]
  constructor
  · rintro ⟨own, inside, goThrough⟩
    rw [List.forall_mem_append] at own inside
    refine ⟨⟨own.1, inside.1, fun index token here => ?_⟩, ⟨own.2, ?_, fun index token here => ?_⟩⟩
    · exact ((through index token).mp (goThrough index token here)).1
    · rw [size_rewritten_of_keeps keeps]
      exact inside.2
    · rw [found, Option.map_eq_some_iff] at here
      obtain ⟨before, here, rfl⟩ := here
      exact ((through index before).mp (goThrough index before here)).2
  · rintro ⟨first, second⟩
    refine ⟨List.forall_mem_append.mpr ⟨first.own, second.own⟩,
      List.forall_mem_append.mpr ⟨first.inside, ?_⟩, fun index token here => ?_⟩
    · rw [← size_rewritten_of_keeps keeps]
      exact second.inside
    · refine (through index token).mpr ⟨first.goThrough index token here, ?_⟩
      exact second.goThrough index _ (by rw [found, here, Option.map_some])

private theorem apply_append_eq_ok_iff (keeps : Batch.Keeps batch) {count : Nat}
    {after : Sequence} :
    (sequence.apply (batch ++ other)).result = .ok (count, after) ↔
      ∃ first between second, (sequence.apply batch).result = .ok (first, between) ∧
        (between.apply other).result = .ok (second, after) ∧ count = first + second := by
  simp only [apply_eq_ok_iff, Prod.mk.injEq, accepts_append keeps, rewritten_append keeps,
    List.length_append]
  constructor
  · rintro ⟨⟨first, second⟩, rfl, rfl⟩
    exact ⟨_, _, _, ⟨first, rfl, rfl⟩, ⟨second, rfl, rfl⟩, rfl⟩
  · rintro ⟨_, _, _, ⟨first, rfl, rfl⟩, ⟨second, rfl, rfl⟩, rfl⟩
    exact ⟨⟨first, second⟩, rfl, rfl⟩

end Sequence

namespace Dataset

variable {dataset : Dataset}

private theorem editsAt_append (position : Nat) :
    dataset.editsAt (batch ++ other) position =
      dataset.editsAt batch position ++ dataset.editsAt other position :=
  List.filter_append _ _

private theorem keeps_editsAt (dataset : Dataset) (keeps : Batch.Keeps batch) (position : Nat) :
    Batch.Keeps (dataset.editsAt batch position) :=
  fun edit member => keeps edit (List.mem_of_mem_filter member)

private theorem getElem?_rewrittenInPlace (position : Nat) :
    (dataset.rewrittenInPlace batch).sequences[position]? =
      dataset.sequences[position]?.map (·.rewritten (dataset.editsAt batch position)) := by
  rw [rewrittenInPlace, List.getElem?_mapIdx]

private theorem rewrittenInPlace_append (keeps : Batch.Keeps batch) :
    dataset.rewrittenInPlace (batch ++ other) =
      (dataset.rewrittenInPlace batch).rewrittenInPlace other := by
  have sequences : (dataset.rewrittenInPlace (batch ++ other)).sequences =
      ((dataset.rewrittenInPlace batch).rewrittenInPlace other).sequences := by
    refine List.ext_getElem? fun position => ?_
    simp only [getElem?_rewrittenInPlace, Option.map_map]
    refine congrArg (Option.map · _) (funext fun sequence => ?_)
    rw [editsAt_append, Sequence.rewritten_append (dataset.keeps_editsAt keeps position)]
    rfl
  exact congrArg (fun sequences => { dataset with sequences }) sequences

private theorem sources_rewrittenInPlace :
    (dataset.rewrittenInPlace batch).sources = dataset.sources.map fun source =>
      { source with
        sequence := source.sequence.rewritten (dataset.editsAt batch source.position) } := by
  refine List.ext_getElem? fun position => ?_
  simp only [sources, rewrittenInPlace, List.getElem?_map, List.getElem?_mapIdx, Option.map_map]
  rfl

private theorem editCount_append :
    dataset.editCount (batch ++ other) =
      dataset.editCount batch + (dataset.rewrittenInPlace batch).editCount other := by
  have second : (dataset.rewrittenInPlace batch).editCount other = dataset.editCount other := by
    rw [editCount, sources_rewrittenInPlace, List.flatMap_map]
    rfl
  rw [second, editCount, editCount, editCount, ← List.length_append]
  simp only [editsAt_append]
  exact (List.flatMap_append_perm _ _ _).symm.length_eq

private theorem accepts_append (keeps : Batch.Keeps batch) :
    dataset.Accepts (batch ++ other) ↔
      dataset.Accepts batch ∧ (dataset.rewrittenInPlace batch).Accepts other := by
  have parts (position : Nat) (sequence : Sequence) :
      sequence.Accepts (dataset.editsAt (batch ++ other) position) ↔
        sequence.Accepts (dataset.editsAt batch position) ∧
          (sequence.rewritten (dataset.editsAt batch position)).Accepts
            (dataset.editsAt other position) := by
    rw [editsAt_append, Sequence.accepts_append (dataset.keeps_editsAt keeps position)]
  constructor
  · rintro ⟨known, accepts⟩
    rw [List.forall_mem_append] at known
    refine ⟨⟨known.1, fun position sequence there => ?_⟩,
      ⟨known.2, fun position sequence there => ?_⟩⟩
    · exact ((parts position sequence).mp (accepts position sequence there)).1
    · rw [getElem?_rewrittenInPlace, Option.map_eq_some_iff] at there
      obtain ⟨before, there, rfl⟩ := there
      exact ((parts position before).mp (accepts position before there)).2
  · rintro ⟨first, second⟩
    refine ⟨List.forall_mem_append.mpr ⟨first.known, second.known⟩, ?_⟩
    intro position sequence there
    refine (parts position sequence).mpr ⟨first.accepts position sequence there, ?_⟩
    exact second.accepts position _ (by rw [getElem?_rewrittenInPlace, there, Option.map_some])

private theorem apply_append_eq_ok_iff (keeps : Batch.Keeps batch) {count : Nat} {after : Dataset} :
    (dataset.apply (batch ++ other)).result = .ok (count, after) ↔
      ∃ first between second, (dataset.apply batch).result = .ok (first, between) ∧
        (between.apply other).result = .ok (second, after) ∧ count = first + second := by
  simp only [apply_eq_ok_iff, Prod.mk.injEq, accepts_append keeps, rewrittenInPlace_append keeps,
    editCount_append]
  constructor
  · rintro ⟨⟨first, second⟩, rfl, rfl⟩
    exact ⟨_, _, _, ⟨first, rfl, rfl⟩, ⟨second, rfl, rfl⟩, rfl⟩
  · rintro ⟨_, _, _, ⟨first, rfl, rfl⟩, ⟨second, rfl, rfl⟩, rfl⟩
    exact ⟨⟨first, second⟩, rfl, rfl⟩

end Dataset

/-- When the first of two batches removes no token, both as one batch are applied, to a sequence and
to a dataset, exactly when the first is applied and the second is applied to what it leaves; what is
left in the end is then the same, and the counts add up. -/
theorem apply_append_of_keeps (keeps : Batch.Keeps batch) (other : List Edit) :
    (∀ (sequence : Sequence) count after,
      (sequence.apply (batch ++ other)).result = .ok (count, after) ↔
        ∃ first between second, (sequence.apply batch).result = .ok (first, between) ∧
          (between.apply other).result = .ok (second, after) ∧ count = first + second) ∧
    ∀ (dataset : Dataset) count after,
      (dataset.apply (batch ++ other)).result = .ok (count, after) ↔
        ∃ first between second, (dataset.apply batch).result = .ok (first, between) ∧
          (between.apply other).result = .ok (second, after) ∧ count = first + second :=
  ⟨fun _ _ _ => Sequence.apply_append_eq_ok_iff keeps,
    fun _ _ _ => Dataset.apply_append_eq_ok_iff keeps⟩

private def openingEdits : List Edit :=
  [⟨⟨"a", 0⟩, .appendArgument "3"⟩, ⟨⟨"a", 1⟩, .appendArgument "4"⟩]

private def closingEdits : List Edit :=
  [⟨⟨"a", 0⟩, .removeArgument 0⟩, ⟨⟨"a", 1⟩, .remove⟩, ⟨⟨"a", 0⟩, .setArgument 1 "5"⟩]

private def twoSources : Dataset :=
  .ofSequences [⟨"b", [.bare "k"]⟩, ⟨"a", [⟨"f", ["1", "2"]⟩, .bare "g"]⟩]

/-- The second half sets an argument at a position that only the first half makes good. -/
theorem apply_append_in_halves :
    Batch.Keeps openingEdits ∧
      (∃ first between second,
        ((⟨"a", [⟨"f", ["1", "2"]⟩, .bare "g"]⟩ : Sequence).apply openingEdits).result =
          .ok (first, between) ∧
        (between.apply closingEdits).result = .ok (second, ⟨"a", [⟨"f", ["2", "5"]⟩]⟩) ∧
        5 = first + second) ∧
      ∃ first between second after,
        (twoSources.apply openingEdits).result = .ok (first, between) ∧
        (between.apply closingEdits).result = .ok (second, after) ∧
        5 = first + second ∧
        after.sequences = [⟨"b", [.bare "k"]⟩, ⟨"a", [⟨"f", ["2", "5"]⟩]⟩] := by
  have keeps : Batch.Keeps openingEdits := by
    unfold Batch.Keeps
    decide
  have halves := apply_append_of_keeps keeps closingEdits
  refine ⟨keeps, (halves.1 _ _ _).mp (by decide), ?_⟩
  have applied : ∃ outcome, (twoSources.apply (openingEdits ++ closingEdits)).result = .ok outcome ∧
      (outcome.1, outcome.2.sequences) =
        (5, [⟨"b", [.bare "k"]⟩, ⟨"a", [⟨"f", ["2", "5"]⟩]⟩]) := ⟨_, rfl, by decide⟩
  obtain ⟨⟨count, after⟩, applied, contents⟩ := applied
  obtain ⟨rfl, sequences⟩ := Prod.mk.inj contents
  obtain ⟨first, between, second, done, onward, total⟩ := (halves.2 _ _ _).mp applied
  exact ⟨first, between, second, after, done, onward, total, sequences⟩

end TokenQuery
